import Messenger.Packet.Fragments
import Messenger.Proofs.Packet.Merge

/-!
A response cut into pieces is put together again: wherever its fields are cut, and however often,
the pieces offered in order yield the fields as they were, under the header of the first piece.
-/

namespace Messenger

namespace Body

/-- Fields taken in one after another, the newest in front. -/
def gather (policy : MergePolicy) (gathered fields : List (String × String)) :
    List (String × String) :=
  fields.foldl (fun gathered field => mergeField (policy.ruleFor field.1) gathered field) gathered

theorem gather_append (policy : MergePolicy) (gathered front rest : List (String × String)) :
    gather policy gathered (front ++ rest) = gather policy (gather policy gathered front) rest :=
  List.foldl_append

theorem mergeWith_fields (policy : MergePolicy) (body continuation : Body) :
    (body.mergeWith policy continuation).fields.reverse =
      gather policy body.fields.reverse continuation.fields :=
  List.reverse_reverse _

/-- A value that continues in the next field is as good as the whole value. -/
theorem mergeField_concatenate_twice (gathered : List (String × String))
    (key first second : String) :
    mergeField .concatenate (mergeField .concatenate gathered (key, first)) (key, second) =
      mergeField .concatenate gathered (key, first ++ second) := by
  by_cases hknown : key ∈ gathered.map Prod.fst
  · obtain ⟨newer, last, older, rfl, habsent⟩ := exists_latest hknown
    rw [mergeField_of_latest rfl habsent, mergeField_of_latest rfl habsent,
      mergeField_of_latest rfl habsent, String.append_assoc]
  · have hfront : ∀ value, mergeField .concatenate gathered (key, value) = (key, value) :: gathered :=
      fun value => mergeField_of_absent hknown
    have hnone : key ∉ ([] : List (String × String)).map Prod.fst := List.not_mem_nil
    rw [hfront, hfront]
    exact mergeField_of_latest rfl hnone first second gathered

/-- Nothing continues unless a key comes twice. -/
theorem gather_of_once {policy : MergePolicy} {gathered fields : List (String × String)}
    (honce : ∀ key, policy.ruleFor key ≠ .append →
      ((fields.reverse ++ gathered).map Prod.fst).count key ≤ 1) :
    gather policy gathered fields = fields.reverse ++ gathered := by
  induction fields generalizing gathered with
  | nil => rfl
  | cons field rest induction =>
      have hmerged : mergeField (policy.ruleFor field.1) gathered field = field :: gathered := by
        by_cases hrule : policy.ruleFor field.1 = .append
        · rw [hrule]
          rfl
        · refine mergeField_of_absent fun hpresent => ?_
          have hcount := honce field.1 hrule
          have hpositive := List.count_pos_iff.mpr hpresent
          simp only [List.reverse_cons, List.append_assoc, List.map_append, List.map_cons,
            List.cons_append, List.nil_append, List.count_append,
            List.count_cons_self] at hcount
          omega
      have hstep : gather policy (field :: gathered) rest = rest.reverse ++ field :: gathered := by
        refine induction ?_
        simpa only [List.reverse_cons, List.append_assoc, List.cons_append, List.nil_append]
          using honce
      calc gather policy gathered (field :: rest)
          = gather policy (field :: gathered) rest := by
            simp only [gather, List.foldl_cons, hmerged]
        _ = (field :: rest).reverse ++ gathered := by
            simpa only [List.reverse_cons, List.append_assoc, List.cons_append, List.nil_append]
              using hstep

/-- Fields in order, cut into pieces between two fields or inside the value of one of the keys. -/
inductive Cut (keys : List String) :
    List (String × String) → List (List (String × String)) → Prop
  | whole (fields : List (String × String)) : Cut keys fields [fields]
  | between (front : List (String × String)) {rest : List (String × String)}
      {pieces : List (List (String × String))} (hrest : Cut keys rest pieces) :
      Cut keys (front ++ rest) (front :: pieces)
  | inside (front : List (String × String)) {key : String} (hkey : key ∈ keys)
      (first second : String) {rest : List (String × String)}
      {pieces : List (List (String × String))}
      (hrest : Cut keys ((key, second) :: rest) pieces) :
      Cut keys (front ++ (key, first ++ second) :: rest) ((front ++ [(key, first)]) :: pieces)

theorem Cut.ne_nil {keys : List String} {fields : List (String × String)}
    {pieces : List (List (String × String))} (h : Cut keys fields pieces) :
    pieces ≠ [] := by
  cases h <;> exact List.cons_ne_nil _ _

/-- However the fields are cut, taking in the pieces is taking in the fields. -/
theorem Cut.foldl_gather {policy : MergePolicy} {keys : List String}
    (hkeys : ∀ key ∈ keys, policy.ruleFor key = .concatenate) {fields : List (String × String)}
    {pieces : List (List (String × String))} (h : Cut keys fields pieces)
    (gathered : List (String × String)) :
    pieces.foldl (gather policy) gathered = gather policy gathered fields := by
  induction h generalizing gathered with
  | whole fields => rfl
  | between front hrest induction =>
      rw [List.foldl_cons, induction, gather_append]
  | inside front hkey first second hrest induction =>
      rw [List.foldl_cons, induction, gather_append, gather_append]
      simp only [gather, List.foldl_cons, List.foldl_nil, hkeys _ hkey,
        mergeField_concatenate_twice]

/-- The keys of the first piece are the first keys of the whole. -/
theorem Cut.keys_prefix {keys : List String} {fields front : List (String × String)}
    {rest : List (List (String × String))} (h : Cut keys fields (front :: rest)) :
    front.map Prod.fst <+: fields.map Prod.fst := by
  cases h with
  | whole => exact List.prefix_rfl
  | between _ hrest =>
      rw [List.map_append]
      exact List.prefix_append _ _
  | inside front hkey first second hrest =>
      simp only [List.map_append, List.map_cons, List.map_nil]
      exact List.prefix_append_right_inj _ |>.mpr (List.prefix_append [_] _)

theorem Cut.mem_keys {keys : List String} {fields : List (String × String)}
    {pieces : List (List (String × String))} (h : Cut keys fields pieces) {key : String}
    (hkey : key ∈ fields.map Prod.fst) :
    ∃ piece ∈ pieces, key ∈ piece.map Prod.fst := by
  induction h with
  | whole fields => exact ⟨fields, List.mem_singleton_self _, hkey⟩
  | between front hrest induction =>
      rw [List.map_append, List.mem_append] at hkey
      rcases hkey with hfront | hrest
      · exact ⟨front, List.mem_cons_self, hfront⟩
      · obtain ⟨piece, hpiece, hin⟩ := induction hrest
        exact ⟨piece, List.mem_cons_of_mem _ hpiece, hin⟩
  | inside front hkeys first second hrest induction =>
      rw [List.map_append, List.mem_append] at hkey
      rcases hkey with hfront | hrest
      · exact ⟨_, List.mem_cons_self, by simpa using .inl (by simpa using hfront)⟩
      · obtain ⟨piece, hpiece, hin⟩ := induction (by simpa using hrest)
        exact ⟨piece, List.mem_cons_of_mem _ hpiece, hin⟩

/-- Pieces of fields where no continued key comes twice are joined to those fields. -/
theorem Cut.foldl_mergeWith {keys : List String} {fields : List (String × String)}
    (honce : ∀ key ∈ keys, (fields.map Prod.fst).count key ≤ 1) {first : Body}
    {rest : List Body} (h : Cut keys fields (first.fields :: rest.map (·.fields))) :
    (rest.foldl (mergeWith (.concatenating keys)) first) = ⟨fields⟩ := by
  have hrule : ∀ key, (MergePolicy.concatenating keys).ruleFor key ≠ .append → key ∈ keys := by
    intro key hkey
    rw [MergePolicy.ruleFor_concatenating] at hkey
    exact Decidable.byContradiction fun hnot => hkey (if_neg hnot)
  have hwhole : gather (.concatenating keys) [] fields = fields.reverse := by
    rw [gather_of_once, List.append_nil]
    intro key hkey
    rw [List.append_nil, List.map_reverse, List.count_reverse]
    exact honce key (hrule key hkey)
  have hfirst : gather (.concatenating keys) [] first.fields = first.fields.reverse := by
    rw [gather_of_once, List.append_nil]
    intro key hkey
    rw [List.append_nil, List.map_reverse, List.count_reverse]
    exact Nat.le_trans (h.keys_prefix.sublist.count_le key) (honce key (hrule key hkey))
  have hfold : ∀ (rest : List Body) (body : Body),
      (rest.foldl (mergeWith (.concatenating keys)) body).fields.reverse =
        (rest.map (·.fields)).foldl (gather (.concatenating keys)) body.fields.reverse := by
    intro rest
    induction rest with
    | nil => exact fun _ => rfl
    | cons piece rest induction =>
        intro body
        rw [List.foldl_cons, induction, mergeWith_fields]
        rfl
  have hjoined : (first.fields :: rest.map (·.fields)).foldl (gather (.concatenating keys)) [] =
      gather (.concatenating keys) [] fields := by
    refine h.foldl_gather ?_ []
    intro key hkey
    rw [MergePolicy.ruleFor_concatenating, if_pos hkey]
  rw [List.foldl_cons, hfirst, ← hfold, hwhole] at hjoined
  exact congrArg Body.mk (List.reverse_inj.mp hjoined)

end Body

/-- Packets that have been joined already stand for themselves. -/
theorem Collector.join_toList_append (policy : MergePolicy) (packets more : List Packet) :
    join policy ((join policy packets).toList ++ more) = join policy (packets ++ more) := by
  cases packets with
  | nil => rfl
  | cons first rest => exact congrArg some List.foldl_append.symm

namespace FragmentBuffer

/-- The answers to packets offered one after another, and the buffer they leave. -/
def offerAll (buffer : FragmentBuffer) : List Packet → List (Option Packet) × FragmentBuffer
  | [] => ([], buffer)
  | packet :: rest =>
      let (answer, next) := buffer.offer packet
      let (answers, last) := next.offerAll rest
      (answer :: answers, last)

theorem offer_of_terminal {buffer : FragmentBuffer} {packet : Packet}
    (hterminal : packet.has buffer.terminalKey = true) :
    buffer.offer packet =
      (Collector.join buffer.policy
        ((buffer.inProgress.find? packet.service).toList ++ [packet]),
      { buffer with inProgress := buffer.inProgress.erase packet.service }) := by
  unfold offer
  cases buffer.inProgress.find? packet.service <;> simp [hterminal, Collector.join]

theorem offer_of_partial {buffer : FragmentBuffer} {packet : Packet}
    (hpartial : packet.has buffer.terminalKey = false) :
    ∃ merged, Collector.join buffer.policy
        ((buffer.inProgress.find? packet.service).toList ++ [packet]) = some merged ∧
      buffer.offer packet =
        (none, { buffer with inProgress := buffer.inProgress.insert packet.service merged }) := by
  unfold offer
  cases buffer.inProgress.find? packet.service <;>
    exact ⟨_, rfl, by simp [hpartial]⟩

/-- One response, offered to the end: what was held comes in front, and nothing of it is kept. -/
theorem offerAll_response (buffer : FragmentBuffer) {service : Service}
    {partials : List Packet} {terminal : Packet}
    (hservice : ∀ piece ∈ partials ++ [terminal], piece.service = service)
    (hpartial : ∀ piece ∈ partials, piece.has buffer.terminalKey = false)
    (hterminal : terminal.has buffer.terminalKey = true) :
    (buffer.offerAll (partials ++ [terminal])).1 =
      List.replicate partials.length none ++
        [Collector.join buffer.policy
          ((buffer.inProgress.find? service).toList ++ partials ++ [terminal])] ∧
    (buffer.offerAll (partials ++ [terminal])).2.inProgress.find? service = none ∧
    ∀ other, other ≠ service →
      (buffer.offerAll (partials ++ [terminal])).2.inProgress.find? other =
        buffer.inProgress.find? other := by
  -- What is held for the service grows by one piece a step.
  induction partials generalizing buffer with
  | nil =>
      have hlast : terminal.service = service := hservice terminal (by simp)
      simp only [List.nil_append, offerAll, offer_of_terminal hterminal, hlast]
      refine ⟨by simp, Table.find?_erase_self _ _, fun other hother => ?_⟩
      exact Table.find?_erase_of_ne _ hother
  | cons piece rest induction =>
      have hpiece : piece.service = service := hservice piece (by simp)
      obtain ⟨merged, hmerged, hoffer⟩ := offer_of_partial (hpartial piece List.mem_cons_self)
      rw [hpiece] at hmerged hoffer
      obtain ⟨hanswers, hkept, hothers⟩ := induction
        { buffer with inProgress := buffer.inProgress.insert service merged }
        (fun other hother => hservice other (List.mem_cons_of_mem _ hother))
        (fun other hother => hpartial other (List.mem_cons_of_mem _ hother)) hterminal
      have hjoin : Collector.join buffer.policy ([merged] ++ rest ++ [terminal]) =
          Collector.join buffer.policy
            ((buffer.inProgress.find? service).toList ++ piece :: rest ++ [terminal]) := by
        have hwhole := Collector.join_toList_append buffer.policy
          ((buffer.inProgress.find? service).toList ++ [piece]) (rest ++ [terminal])
        rw [hmerged] at hwhole
        simpa using hwhole
      simp only [List.cons_append, offerAll, hoffer]
      refine ⟨?_, hkept, fun other hother => ?_⟩
      · rw [hanswers, Table.find?_insert_self]
        exact congrArg (fun whole => none :: (List.replicate rest.length none ++ [whole])) hjoin
      · rw [hothers other hother]
        exact Table.find?_insert_of_ne _ hother merged

/-- A key of the whole that no other piece holds is in the last one. -/
theorem has_last_of_cut {cuttable : List String} {roster terminal : Packet}
    {partials : List Packet} {key : String}
    (hcut : Body.Cut cuttable roster.body.fields ((partials ++ [terminal]).map (·.body.fields)))
    (hkey : roster.has key = true) (hpartials : ∀ piece ∈ partials, piece.has key = false) :
    terminal.has key = true := by
  obtain ⟨fields, hfields, hin⟩ := hcut.mem_keys ((Body.contains_iff_mem _ _).mp hkey)
  obtain ⟨piece, hpiece, rfl⟩ := List.mem_map.mp hfields
  have hhas : piece.has key = true := (Body.contains_iff_mem _ _).mpr hin
  rcases List.mem_append.mp hpiece with hpartial | hterminal
  · rw [hpartials piece hpartial] at hhas
    cases hhas
  · rwa [← List.mem_singleton.mp hterminal]

theorem join_of_cut {roster first : Packet} {rest : List Packet}
    (hservice : first.service = roster.service)
    (honce : ∀ key ∈ ["87", "88", "89"], (roster.body.getAll key).length ≤ 1)
    (hcut : Body.Cut ["87", "88", "89"] roster.body.fields
      ((first :: rest).map (·.body.fields))) :
    Collector.join forList.policy (first :: rest) =
      some { roster with
        version := first.version, status := first.status, sessionId := first.sessionId } := by
  have hbody : (rest.map (·.body)).foldl (Body.mergeWith forList.policy) first.body =
      roster.body := by
    show (rest.map (·.body)).foldl (Body.mergeWith (.concatenating ["87", "88", "89"])) first.body =
      ⟨roster.body.fields⟩
    refine Body.Cut.foldl_mergeWith ?_ ?_
    · intro key hkey
      rw [← Body.length_getAll]
      exact honce key hkey
    · rw [List.map_map]
      exact hcut
  simp only [Collector.join, Packet.foldl_mergeWith, hbody, hservice]

/-- A roster cut into pieces with its fields 59 in the last one comes back whole under the header of
the first one, whatever other services have pending. -/
theorem forList_offerAll_cut (roster : Packet) (pieces : List Packet)
    (pending : Table Service Packet) (hservice : roster.service = .list)
    (hterminal : roster.has "59" = true)
    (honce : ∀ key ∈ ["87", "88", "89"], (roster.body.getAll key).length ≤ 1)
    (hcut : Body.Cut ["87", "88", "89"] roster.body.fields (pieces.map (·.body.fields)))
    (hpieces : ∀ piece ∈ pieces, piece.service = .list)
    (hlast : ∀ piece ∈ pieces.dropLast, piece.has "59" = false)
    (hpending : pending.find? .list = none) :
    ∃ first rest, pieces = first :: rest ∧
      (offerAll { forList with inProgress := pending } pieces).1 =
        List.replicate rest.length none ++
          [some { roster with
            version := first.version, status := first.status, sessionId := first.sessionId }] ∧
      (offerAll { forList with inProgress := pending } pieces).2.isPending .list = false ∧
      ∀ other, other ≠ .list →
        (offerAll { forList with inProgress := pending } pieces).2.inProgress.find? other =
          pending.find? other := by
  obtain ⟨partials, terminal, rfl⟩ : ∃ partials terminal, pieces = partials ++ [terminal] := by
    have hne : pieces ≠ [] := fun hnil => hcut.ne_nil (by rw [hnil]; rfl)
    exact ⟨pieces.dropLast, pieces.getLast hne, (List.dropLast_concat_getLast hne).symm⟩
  rw [List.dropLast_concat] at hlast
  obtain ⟨hanswers, hkept, hothers⟩ := offerAll_response
    { forList with inProgress := pending } hpieces hlast (has_last_of_cut hcut hterminal hlast)
  obtain ⟨first, rest, hcons⟩ : ∃ first rest, partials ++ [terminal] = first :: rest :=
    List.exists_cons_of_ne_nil (by simp)
  have hlength : rest.length = partials.length := by
    have hboth := congrArg List.length hcons
    simpa using hboth.symm
  have hfirst : first.service = .list := hpieces first (by simp [hcons])
  have hjoin : Collector.join forList.policy (partials ++ [terminal]) =
      some { roster with
        version := first.version, status := first.status, sessionId := first.sessionId } := by
    rw [hcons] at hcut ⊢
    exact join_of_cut (hfirst.trans hservice.symm) honce hcut
  refine ⟨first, rest, hcons, ?_, ?_, hothers⟩
  · rw [hanswers, hpending, hlength, Option.toList_none, List.nil_append, hjoin]
  · rw [isPending, Table.contains, hkept]
    rfl

/-- Four pieces: one value is cut twice, an empty value once, and the headers differ. -/
theorem forList_offerAll_cut_twice :
    (offerAll { forList with inProgress := ⟨[(.logon, Packet.request .logon [("0", "me")])]⟩ }
      [⟨16, .list, 1, 3, ⟨[("1", "me"), ("87", "Friends:al")]⟩⟩,
        ⟨12, .list, 5, 0, ⟨[("87", "")]⟩⟩,
        ⟨12, .list, 5, 0, ⟨[("87", "ice,bob\n"), ("88", "")]⟩⟩,
        ⟨12, .list, 0, 8, ⟨[("88", ""), ("59", "B"), ("59", "C")]⟩⟩]).1 =
      [none, none, none,
        some ⟨16, .list, 1, 3,
          ⟨[("1", "me"), ("87", "Friends:alice,bob\n"), ("88", ""), ("59", "B"), ("59", "C")]⟩⟩] := by
  have hcut : Body.Cut ["87", "88", "89"]
      [("1", "me"), ("87", "Friends:alice,bob\n"), ("88", ""), ("59", "B"), ("59", "C")]
      [[("1", "me"), ("87", "Friends:al")], [("87", "")], [("87", "ice,bob\n"), ("88", "")],
        [("88", ""), ("59", "B"), ("59", "C")]] := by
    refine .inside [("1", "me")] (by decide) "Friends:al" "ice,bob\n" ?_
    refine .inside [] (by decide) "" "ice,bob\n" ?_
    exact .inside [("87", "ice,bob\n")] (by decide) "" "" (.whole _)
  obtain ⟨first, rest, hcons, hanswers, -⟩ := forList_offerAll_cut
    (.request .list [("1", "me"), ("87", "Friends:alice,bob\n"), ("88", ""), ("59", "B"),
      ("59", "C")])
    [⟨16, .list, 1, 3, ⟨[("1", "me"), ("87", "Friends:al")]⟩⟩,
      ⟨12, .list, 5, 0, ⟨[("87", "")]⟩⟩,
      ⟨12, .list, 5, 0, ⟨[("87", "ice,bob\n"), ("88", "")]⟩⟩,
      ⟨12, .list, 0, 8, ⟨[("88", ""), ("59", "B"), ("59", "C")]⟩⟩]
    ⟨[(.logon, .request .logon [("0", "me")])]⟩ rfl (by decide) (by decide) hcut (by decide)
    (by decide) (by decide)
  cases hcons
  exact hanswers

end FragmentBuffer

end Messenger
