import Mathlib.Data.List.Induction
import Messenger.Packet.Merge
import Messenger.Dispatch.Collector

/-!
What merging does to each key. The entries of the first packet stay where they are, and those of the
other one extend the last of their key, take its place, or follow behind. So a merged body is known
by its keys in order and by the values of each key, and merging is associative: a response is the
same however its pieces are grouped.
-/

namespace Messenger

namespace MergeRule

/-- The values of a key, and those that come to them. -/
def combine : MergeRule → List String → List String → List String
  | _, values, [] => values
  | .append, values, more => values ++ more
  | .concatenate, values, more => values.dropLast ++ [String.join (values.getLast?.toList ++ more)]
  | .replace, values, more => values.dropLast ++ more.getLast?.toList

@[simp] theorem combine_nil (rule : MergeRule) (values : List String) :
    rule.combine values [] = values := by
  cases rule <;> rfl

theorem combine_concatenate {values more : List String} (hmore : more ≠ []) :
    concatenate.combine values more =
      values.dropLast ++ [String.join (values.getLast?.toList ++ more)] := by
  cases more with
  | nil => exact absurd rfl hmore
  | cons value more => rfl

theorem combine_replace_concat (values more : List String) (value : String) :
    replace.combine values (more ++ [value]) = values.dropLast ++ [value] := by
  cases more with
  | nil => rfl
  | cons first more =>
      show values.dropLast ++ (first :: more ++ [value]).getLast?.toList = _
      rw [List.getLast?_concat, Option.toList_some]

theorem combine_append (rule : MergeRule) (values more others : List String) :
    rule.combine values (more ++ others) = rule.combine (rule.combine values more) others := by
  cases more using List.reverseRecOn with
  | nil => rw [List.nil_append, combine_nil]
  | append_singleton more value =>
      cases others using List.reverseRecOn with
      | nil => rw [List.append_nil, combine_nil]
      | append_singleton others other =>
          cases rule with
          | append => simp [combine]
          | concatenate => simp [combine_concatenate, String.append_assoc]
          | replace =>
              rw [← List.append_assoc, combine_replace_concat, combine_replace_concat,
                combine_replace_concat, List.dropLast_concat]

/-- Values may be combined among themselves before they come to others. -/
theorem combine_combine (rule : MergeRule) (values more others : List String) :
    rule.combine values (rule.combine more others) = rule.combine values (more ++ others) := by
  cases others using List.reverseRecOn with
  | nil => rw [List.append_nil, combine_nil]
  | append_singleton others other =>
      cases rule with
      | append => simp [combine]
      | concatenate => cases more using List.reverseRecOn <;> simp [combine_concatenate]
      | replace =>
          rw [← List.append_assoc, combine_replace_concat, combine_replace_concat,
            combine_replace_concat]

@[simp] theorem combine_none (rule : MergeRule) (value : String) :
    rule.combine [] [value] = [value] := by
  cases rule <;> simp [combine]

theorem combine_last {rule : MergeRule} {join : String → String → String}
    (hjoin : rule.join? = some join) (values : List String) (last value : String) :
    rule.combine (values ++ [last]) [value] = values ++ [join last value] := by
  cases rule <;> cases hjoin <;> simp [combine]

end MergeRule

namespace MergePolicy

theorem ruleFor_concatenating (keys : List String) (key : String) :
    (concatenating keys).ruleFor key = if key ∈ keys then .concatenate else .append := by
  have hrules : ∀ policy : MergePolicy,
      ((keys.map fun key => (key, MergeRule.concatenate)).foldl
        (fun policy rule => policy.withRule rule.1 rule.2) policy).ruleFor key =
          if key ∈ keys then .concatenate else policy.ruleFor key := by
    induction keys with
    | nil => exact fun _ => rfl
    | cons other rest induction =>
        intro policy
        rw [List.map_cons, List.foldl_cons, induction]
        by_cases hrest : key ∈ rest
        · rw [if_pos hrest, if_pos (List.mem_cons_of_mem _ hrest)]
        · by_cases hself : key = other
          · rw [hself]
            simp
          · simp [hrest, hself]
  exact hrules {}

/-- Whether a field gets an entry of its own where these keys are known. -/
def Opens (policy : MergePolicy) (known : List String) (key : String) : Prop :=
  policy.ruleFor key = .append ∨ key ∉ known

instance (policy : MergePolicy) (known : List String) (key : String) :
    Decidable (policy.Opens known key) :=
  inferInstanceAs (Decidable (_ ∨ _))

/-- Those of the keys that get entries of their own, in order. Each of them is known to the keys
behind it. -/
def opened (policy : MergePolicy) (known keys : List String) : List String :=
  (keys.zipIdx.filter fun entry => policy.Opens (known ++ keys.take entry.2) entry.1).map Prod.fst

variable {policy : MergePolicy} {known others : List String}

theorem opens_congr {key : String} (hsame : key ∈ known ↔ key ∈ others) :
    policy.Opens known key ↔ policy.Opens others key := by
  unfold Opens
  rw [hsame]

theorem Opens.of_append {key : String} (h : policy.Opens (known ++ others) key) :
    policy.Opens others key :=
  h.imp_right fun hnew hother => hnew (List.mem_append_right known hother)

theorem opened_concat (policy : MergePolicy) (known keys : List String) (key : String) :
    policy.opened known (keys ++ [key]) = policy.opened known keys ++
      if policy.Opens (known ++ keys) key then [key] else [] := by
  have hplaces : (keys.zipIdx.filter fun entry =>
        policy.Opens (known ++ (keys ++ [key]).take entry.2) entry.1) =
      keys.zipIdx.filter fun entry => policy.Opens (known ++ keys.take entry.2) entry.1 := by
    refine List.filter_congr fun entry hentry => ?_
    have hplace := List.snd_lt_of_mem_zipIdx hentry
    rw [List.take_append_of_le_length (by omega)]
  unfold opened
  rw [List.zipIdx_append, List.filter_append, List.map_append, hplaces]
  congr 1
  simp only [List.zipIdx_singleton, List.filter_cons, List.filter_nil, Nat.zero_add,
    List.take_left, decide_eq_true_eq]
  split <;> rfl

theorem opened_singleton (policy : MergePolicy) (known : List String) (key : String) :
    policy.opened known [key] = if policy.Opens known key then [key] else [] := by
  have hconcat := policy.opened_concat known [] key
  rwa [List.append_nil] at hconcat

/-- A key is known behind others if it was before, or is one of them. -/
theorem mem_append_opened (policy : MergePolicy) (known keys : List String) (key : String) :
    key ∈ known ++ policy.opened known keys ↔ key ∈ known ++ keys := by
  induction keys using List.reverseRecOn with
  | nil => rfl
  | append_singleton keys last induction =>
      rw [opened_concat, ← List.append_assoc, ← List.append_assoc, List.mem_append, induction,
        List.mem_append (s := known ++ keys)]
      split
      · rfl
      · rename_i hclosed
        simp only [List.not_mem_nil, or_false, List.mem_singleton, iff_self_or]
        rintro rfl
        exact not_not.mp fun hnew => hclosed (.inr hnew)

theorem opened_append (policy : MergePolicy) (known keys more : List String) :
    policy.opened known (keys ++ more) =
      policy.opened known keys ++ policy.opened (known ++ keys) more := by
  induction more using List.reverseRecOn with
  | nil => simp [opened]
  | append_singleton more key induction =>
      rw [← List.append_assoc, opened_concat, opened_concat, induction, List.append_assoc,
        List.append_assoc]

theorem opened_congr (hsame : ∀ key, key ∈ known ↔ key ∈ others) (keys : List String) :
    policy.opened known keys = policy.opened others keys := by
  simp only [opened, Opens, List.mem_append, hsame]

/-- Keys that are opened behind some of those known, and then behind all, are opened at once. -/
theorem opened_opened (policy : MergePolicy) (known keys more : List String) :
    policy.opened (known ++ keys) (policy.opened keys more) = policy.opened (known ++ keys) more := by
  induction more using List.reverseRecOn with
  | nil => rfl
  | append_singleton more key induction =>
      rw [opened_concat, opened_concat, opened_append, induction]
      congr 1
      have hsame : policy.Opens (known ++ keys ++ policy.opened keys more) key ↔
          policy.Opens (known ++ keys ++ more) key := by
        rw [List.append_assoc, List.append_assoc]
        apply opens_congr
        rw [List.mem_append (s := known), mem_append_opened, ← List.mem_append]
      by_cases hopens : policy.Opens (keys ++ more) key
      · rw [if_pos hopens, opened_singleton]
        exact if_congr hsame rfl rfl
      · have hclosed : ¬ policy.Opens (known ++ keys ++ more) key := by
          rw [List.append_assoc]
          exact fun h => hopens h.of_append
        rw [if_neg hopens, if_neg hclosed]
        rfl

end MergePolicy

namespace Body

def keys (body : Body) : List String :=
  body.fields.map Prod.fst

theorem length_getAll (body : Body) (key : String) :
    (body.getAll key).length = (body.fields.map Prod.fst).count key := by
  rw [getAll, List.length_map, ← List.countP_eq_length_filter, List.count, List.countP_map]
  rfl

theorem contains_iff_mem (body : Body) (key : String) :
    body.contains key = true ↔ key ∈ body.fields.map Prod.fst := by
  simp [contains]

theorem getAll_eq_nil_of_not_mem {body : Body} {key : String} (h : key ∉ body.keys) :
    body.getAll key = [] := by
  apply List.eq_nil_of_length_eq_zero
  rw [length_getAll, List.count_eq_zero]
  exact h

theorem getAll_of_latest {newer : List (String × String)} {key : String}
    (habsent : key ∉ newer.map Prod.fst) (older : List (String × String)) (last : String) :
    getAll ⟨older ++ (key, last) :: newer⟩ key = getAll ⟨older⟩ key ++ [last] := by
  have hnewer : getAll ⟨newer⟩ key = [] := getAll_eq_nil_of_not_mem habsent
  rw [getAll_append, getAll_cons, hnewer]
  simp

/-- Fields are known by their keys in order and the values that each key has. -/
theorem ext_of_values {first second : Body} (hkeys : first.keys = second.keys)
    (hvalues : ∀ key, first.getAll key = second.getAll key) : first = second := by
  obtain ⟨fields⟩ := first
  obtain ⟨others⟩ := second
  apply congrArg Body.mk
  induction fields generalizing others with
  | nil => exact (List.map_eq_nil_iff.mp hkeys.symm).symm
  | cons field fields induction =>
      cases others with
      | nil => cases hkeys
      | cons other others =>
          obtain ⟨hkey, hrest⟩ := List.cons.inj hkeys
          have hself := hvalues field.1
          simp only [getAll_cons, beq_self_eq_true, if_true, hkey] at hself
          obtain ⟨hvalue, -⟩ := List.cons.inj hself
          obtain rfl : field = other := Prod.ext hkey hvalue
          rw [induction others hrest fun key => ?_]
          have hboth := hvalues key
          rw [getAll_cons, getAll_cons] at hboth
          exact List.append_cancel_left hboth

theorem findIdx?_of_absent {gathered : List (String × String)} {key : String}
    (habsent : key ∉ gathered.map Prod.fst) :
    (gathered.findIdx? fun earlier => earlier.1 == key) = none := by
  rw [List.findIdx?_eq_none_iff]
  intro earlier hearlier
  simp only [beq_eq_false_iff_ne]
  exact fun hsame => habsent (hsame ▸ List.mem_map_of_mem hearlier)

theorem mergeField_of_absent {rule : MergeRule} {gathered : List (String × String)}
    {field : String × String} (habsent : field.1 ∉ gathered.map Prod.fst) :
    mergeField rule gathered field = field :: gathered := by
  unfold mergeField
  rw [findIdx?_of_absent habsent]
  cases rule <;> rfl

/-- A value whose key continues goes into the latest field of that key. -/
theorem mergeField_of_latest {rule : MergeRule} {join : String → String → String}
    (hjoin : rule.join? = some join) {newer : List (String × String)} {key : String}
    (habsent : key ∉ newer.map Prod.fst) (last value : String) (older : List (String × String)) :
    mergeField rule (newer ++ (key, last) :: older) (key, value) =
      newer ++ (key, join last value) :: older := by
  have hfound : ((newer ++ (key, last) :: older).findIdx? fun earlier => earlier.1 == key) =
      some newer.length := by
    simp [List.findIdx?_append, List.findIdx?_cons, findIdx?_of_absent habsent]
  have hlength : newer.length < (newer ++ (key, last) :: older).length := by simp
  unfold mergeField
  rw [hjoin, hfound]
  simp only [List.modify_eq_take_cons_drop hlength]
  simp

theorem exists_latest {gathered : List (String × String)} {key : String}
    (h : key ∈ gathered.map Prod.fst) :
    ∃ newer last older, gathered = newer ++ (key, last) :: older ∧ key ∉ newer.map Prod.fst := by
  obtain ⟨front, back, hsplit, habsent⟩ := List.eq_append_cons_of_mem h
  obtain ⟨newer, rest, rfl, rfl, hrest⟩ := List.map_eq_append_iff.mp hsplit
  obtain ⟨⟨_, last⟩, older, rfl, rfl, rfl⟩ := List.map_eq_cons_iff.mp hrest
  exact ⟨newer, last, older, rfl, habsent⟩

/-- One field of a continuation is taken in. -/
def takeIn (policy : MergePolicy) (body : Body) (field : String × String) : Body :=
  ⟨(mergeField (policy.ruleFor field.1) body.fields.reverse field).reverse⟩

theorem mergeWith_nil (policy : MergePolicy) (body : Body) : body.mergeWith policy ⟨[]⟩ = body :=
  congrArg Body.mk (List.reverse_reverse body.fields)

theorem mergeWith_concat (policy : MergePolicy) (body : Body) (fields : List (String × String))
    (field : String × String) :
    body.mergeWith policy ⟨fields ++ [field]⟩ =
      (body.mergeWith policy ⟨fields⟩).takeIn policy field := by
  simp only [mergeWith, takeIn, List.foldl_append, List.foldl_cons, List.foldl_nil,
    List.reverse_reverse]

theorem takeIn_of_opens {policy : MergePolicy} {body : Body} {field : String × String}
    (h : policy.Opens body.keys field.1) : body.takeIn policy field = ⟨body.fields ++ [field]⟩ := by
  have hfront : mergeField (policy.ruleFor field.1) body.fields.reverse field =
      field :: body.fields.reverse := by
    rcases h with hrule | hnew
    · rw [hrule]
      rfl
    · apply mergeField_of_absent
      rw [List.map_reverse, List.mem_reverse]
      exact hnew
  rw [takeIn, hfront, List.reverse_cons, List.reverse_reverse]

theorem takeIn_of_not_opens {policy : MergePolicy} {body : Body} {field : String × String}
    (h : ¬ policy.Opens body.keys field.1) :
    ∃ join older last newer, (policy.ruleFor field.1).join? = some join ∧
      body.fields = older ++ (field.1, last) :: newer ∧ field.1 ∉ newer.map Prod.fst ∧
      body.takeIn policy field = ⟨older ++ (field.1, join last field.2) :: newer⟩ := by
  obtain ⟨key, value⟩ := field
  obtain ⟨hrule, hknown⟩ := not_or.mp h
  obtain ⟨join, hjoin⟩ : ∃ join, (policy.ruleFor key).join? = some join := by
    cases hfound : policy.ruleFor key with
    | append => exact absurd hfound hrule
    | concatenate => exact ⟨_, rfl⟩
    | replace => exact ⟨_, rfl⟩
  have hreversed : key ∈ body.fields.reverse.map Prod.fst := by
    rw [List.map_reverse, List.mem_reverse]
    exact not_not.mp hknown
  obtain ⟨newer, last, older, hsplit, habsent⟩ := exists_latest hreversed
  refine ⟨join, older.reverse, last, newer.reverse, hjoin, ?_, ?_, ?_⟩
  · rw [← List.reverse_reverse body.fields, hsplit]
    simp
  · rwa [List.map_reverse, List.mem_reverse]
  · rw [takeIn, hsplit, mergeField_of_latest hjoin habsent]
    simp

theorem keys_takeIn (policy : MergePolicy) (body : Body) (field : String × String) :
    (body.takeIn policy field).keys = body.keys ++ policy.opened body.keys [field.1] := by
  rw [MergePolicy.opened_singleton]
  by_cases hopens : policy.Opens body.keys field.1
  · rw [if_pos hopens, takeIn_of_opens hopens]
    exact List.map_append
  · obtain ⟨join, older, last, newer, -, hfields, -, htaken⟩ := takeIn_of_not_opens hopens
    rw [if_neg hopens, htaken, List.append_nil, keys, keys, hfields]
    simp

theorem getAll_takeIn_self (policy : MergePolicy) (body : Body) (field : String × String) :
    (body.takeIn policy field).getAll field.1 =
      (policy.ruleFor field.1).combine (body.getAll field.1) [field.2] := by
  by_cases hopens : policy.Opens body.keys field.1
  · have hadded : (body.takeIn policy field).getAll field.1 = body.getAll field.1 ++ [field.2] := by
      rw [takeIn_of_opens hopens, getAll_append, getAll_cons]
      simp [getAll]
    rw [hadded]
    rcases hopens with hrule | hnew
    · rw [hrule]
      rfl
    · rw [getAll_eq_nil_of_not_mem hnew, MergeRule.combine_none]
      rfl
  · obtain ⟨join, older, last, newer, hjoin, hfields, habsent, htaken⟩ :=
      takeIn_of_not_opens hopens
    have hvalues : body.getAll field.1 = getAll ⟨older⟩ field.1 ++ [last] := by
      rw [← getAll_of_latest habsent older last, ← hfields]
    rw [htaken, getAll_of_latest habsent, hvalues, MergeRule.combine_last hjoin]

theorem getAll_takeIn_of_ne (policy : MergePolicy) (body : Body) {field : String × String}
    {key : String} (hne : field.1 ≠ key) :
    (body.takeIn policy field).getAll key = body.getAll key := by
  by_cases hopens : policy.Opens body.keys field.1
  · rw [takeIn_of_opens hopens]
    simp [getAll, hne]
  · obtain ⟨join, older, last, newer, -, hfields, -, htaken⟩ := takeIn_of_not_opens hopens
    rw [htaken, getAll, getAll, hfields]
    simp [hne]

theorem keys_mergeWith (policy : MergePolicy) (body continuation : Body) :
    (body.mergeWith policy continuation).keys =
      body.keys ++ policy.opened body.keys continuation.keys := by
  obtain ⟨fields⟩ := continuation
  induction fields using List.reverseRecOn with
  | nil =>
      rw [mergeWith_nil]
      exact (List.append_nil _).symm
  | append_singleton fields field induction =>
      have hknown : policy.opened (body.keys ++ policy.opened body.keys (keys ⟨fields⟩))
          [field.1] = policy.opened (body.keys ++ keys ⟨fields⟩) [field.1] :=
        MergePolicy.opened_congr (policy.mem_append_opened body.keys (keys ⟨fields⟩)) [field.1]
      have hkeys : keys ⟨fields ++ [field]⟩ = keys ⟨fields⟩ ++ [field.1] := List.map_append
      rw [mergeWith_concat, keys_takeIn, induction, hknown, hkeys, MergePolicy.opened_append,
        List.append_assoc]

theorem getAll_mergeWith (policy : MergePolicy) (body continuation : Body) (key : String) :
    (body.mergeWith policy continuation).getAll key =
      (policy.ruleFor key).combine (body.getAll key) (continuation.getAll key) := by
  obtain ⟨fields⟩ := continuation
  induction fields using List.reverseRecOn with
  | nil =>
      rw [mergeWith_nil]
      exact (MergeRule.combine_nil _ _).symm
  | append_singleton fields field induction =>
      rw [mergeWith_concat, getAll_append, MergeRule.combine_append, ← induction]
      by_cases hkey : field.1 = key
      · subst hkey
        rw [getAll_takeIn_self]
        simp [getAll]
      · rw [getAll_takeIn_of_ne policy _ hkey]
        simp [getAll, hkey]

theorem mergeWith_mergeWith (policy : MergePolicy) (body first second : Body) :
    (body.mergeWith policy first).mergeWith policy second =
      body.mergeWith policy (first.mergeWith policy second) := by
  apply ext_of_values
  · simp only [keys_mergeWith, MergePolicy.opened_append, List.append_assoc]
    rw [MergePolicy.opened_opened,
      MergePolicy.opened_congr (policy.mem_append_opened body.keys first.keys)]
  · intro key
    simp only [getAll_mergeWith]
    rw [MergeRule.combine_combine, MergeRule.combine_append]

end Body

namespace Packet

/-- Merging keeps the header and the places of the first packet. The entries that are added stand
behind, in the order of their first use, and the values of each key are combined by its rule. -/
theorem mergeWith_per_key (policy : MergePolicy) (primary continuation : Packet) :
    let merged := primary.mergeWith policy continuation
    merged = { primary with body := merged.body } ∧
      merged.body.keys =
        primary.body.keys ++ policy.opened primary.body.keys continuation.body.keys ∧
      (∀ key, merged.body.getAll key =
        (policy.ruleFor key).combine (primary.body.getAll key) (continuation.body.getAll key)) ∧
      ∀ keys, primary.mergeKeys keys continuation =
          primary.mergeWith (.concatenating keys) continuation ∧
        ∀ key, (MergePolicy.concatenating keys).ruleFor key =
          if key ∈ keys then .concatenate else .append := by
  intro merged
  refine ⟨rfl, Body.keys_mergeWith policy primary.body continuation.body, ?_, ?_⟩
  · exact Body.getAll_mergeWith policy primary.body continuation.body
  · exact fun keys => ⟨rfl, MergePolicy.ruleFor_concatenating keys⟩

/-- A key that continues twice, one that is replaced, and two that are new. -/
example :
    (Body.mergeWith (.ofList [("87", .concatenate), ("3", .replace), ("88", .concatenate)])
      ⟨[("3", "old"), ("87", "a"), ("7", "ann")]⟩
      ⟨[("88", "x"), ("87", "b"), ("3", "new"), ("7", "bob"), ("88", "y"), ("87", "c")]⟩).fields =
        [("3", "new"), ("87", "abc"), ("7", "ann"), ("88", "xy"), ("7", "bob")] := by
  decide

theorem mergeWith_mergeWith (policy : MergePolicy) (primary first second : Packet) :
    (primary.mergeWith policy first).mergeWith policy second =
      primary.mergeWith policy (first.mergeWith policy second) := by
  simp only [mergeWith, Body.mergeWith_mergeWith]

theorem foldl_mergeWith (policy : MergePolicy) (primary : Packet) (rest : List Packet) :
    rest.foldl (mergeWith policy) primary =
      { primary with body := (rest.map (·.body)).foldl (Body.mergeWith policy) primary.body } := by
  induction rest generalizing primary with
  | nil => rfl
  | cons piece rest induction => exact induction _

instance (policy : MergePolicy) : Std.Associative (mergeWith policy) :=
  ⟨mergeWith_mergeWith policy⟩

/-- Pieces of a response, merged two at a time in any way that keeps their order. -/
inductive Grouping where
  | piece (packet : Packet)
  | joined (first second : Grouping)

namespace Grouping

def pieces : Grouping → List Packet
  | piece packet => [packet]
  | joined first second => first.pieces ++ second.pieces

def merged (policy : MergePolicy) : Grouping → Packet
  | piece packet => packet
  | joined first second => (first.merged policy).mergeWith policy (second.merged policy)

end Grouping

theorem join_append {policy : MergePolicy} {packets others : List Packet} {first second : Packet}
    (hfirst : Collector.join policy packets = some first)
    (hsecond : Collector.join policy others = some second) :
    Collector.join policy (packets ++ others) = some (first.mergeWith policy second) := by
  cases packets with
  | nil => cases hfirst
  | cons packet packets =>
      cases others with
      | nil => cases hsecond
      | cons other others =>
          cases hfirst
          cases hsecond
          show some ((packets ++ other :: others).foldl (mergeWith policy) packet) = _
          rw [List.foldl_append, List.foldl_cons, List.foldl_assoc]

/-- Merging is associative, so that pieces in order make one response, however they are grouped. -/
theorem merged_of_grouping (policy : MergePolicy) :
    (∀ primary first second : Packet,
      (primary.mergeWith policy first).mergeWith policy second =
        primary.mergeWith policy (first.mergeWith policy second)) ∧
      ∀ grouping : Grouping,
        Collector.join policy grouping.pieces = some (grouping.merged policy) := by
  refine ⟨mergeWith_mergeWith policy, fun grouping => ?_⟩
  induction grouping with
  | piece packet => rfl
  | joined first second hfirst hsecond => exact join_append hfirst hsecond

end Packet

end Messenger
