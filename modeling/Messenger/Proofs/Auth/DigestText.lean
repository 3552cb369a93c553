import Messenger.Proofs.Auth.Mixing

/-!
The twenty-two characters that a salted digest ends as. Symbols of six bits read back as the number
they were written from, and the groups take each byte of the digest once, so no two digests share a
text.
-/

namespace Messenger.Auth.CryptHash

def place? (symbol : Char) : Option Nat :=
  alphabet.toList.findIdx? (· == symbol)

/-- The number of a row of symbols, the lowest bits first. -/
def number? : List Char → Option Nat
  | [] => some 0
  | symbol :: rest => do return (← place? symbol) + 64 * (← number? rest)

theorem symbols_zero (value : Nat) : symbols 0 value = [] := rfl

theorem symbols_succ (count value : Nat) :
    ∃ symbol ∈ alphabet.toList, place? symbol = some (value % 64) ∧
      symbols (count + 1) value = symbol :: symbols count (value / 64) := by
  have hplaces : ∀ place : Fin 64, alphabet[place] ∈ alphabet.toList ∧
      place? alphabet[place] = some place.val := by
    decide
  obtain ⟨hmem, hplace⟩ := hplaces (Fin.ofNat 64 value)
  exact ⟨_, hmem, hplace, rfl⟩

theorem number?_symbols (count value : Nat) :
    number? (symbols count value) = some (value % 64 ^ count) := by
  induction count generalizing value with
  | zero => simp [number?, Nat.mod_one, symbols_zero]
  | succ count induction =>
      obtain ⟨symbol, -, hplace, hsymbols⟩ := symbols_succ count value
      rw [hsymbols, number?, hplace, induction, Nat.pow_succ', Nat.mod_mul]
      rfl

/-- A number that fits is told by its symbols. -/
theorem eq_of_symbols_eq {count first second : Nat} (hfirst : first < 64 ^ count)
    (hsecond : second < 64 ^ count) (h : symbols count first = symbols count second) :
    first = second := by
  have hnumber := congrArg number? h
  rw [number?_symbols, number?_symbols, Nat.mod_eq_of_lt hfirst, Nat.mod_eq_of_lt hsecond] at hnumber
  exact Option.some.inj hnumber

theorem symbols_subset (count value : Nat) : symbols count value ⊆ alphabet.toList := by
  induction count generalizing value with
  | zero => exact List.nil_subset _
  | succ count induction =>
      obtain ⟨symbol, hmem, -, hsymbols⟩ := symbols_succ count value
      rw [hsymbols]
      exact List.cons_subset.2 ⟨hmem, induction (value / 64)⟩

/-- Three bytes in four symbols, and the one that is left over in two; it is never two that are
left over. -/
def writtenBytes : List Nat → List Char
  | high :: middle :: low :: rest =>
      symbols 4 ((high * 256 + middle) * 256 + low) ++ writtenBytes rest
  | [last] => symbols 2 last
  | [_, _] => []
  | [] => []

def AreBytes (values : List Nat) : Prop :=
  ∀ value ∈ values, value < 256

theorem triple_of_symbols_eq {high middle low otherHigh otherMiddle otherLow : Nat}
    (hbytes : AreBytes [high, middle, low]) (hothers : AreBytes [otherHigh, otherMiddle, otherLow])
    (h : symbols 4 ((high * 256 + middle) * 256 + low) =
      symbols 4 ((otherHigh * 256 + otherMiddle) * 256 + otherLow)) :
    high = otherHigh ∧ middle = otherMiddle ∧ low = otherLow := by
  simp only [AreBytes, List.forall_mem_cons, List.not_mem_nil, false_implies, implies_true,
    and_true] at hbytes hothers
  have hvalue := eq_of_symbols_eq (by omega) (by omega) h
  omega

/-- The groups tell their bytes one behind the other. -/
theorem eq_of_writtenBytes_eq {first second : List Nat} (hlength : first.length = second.length)
    (hleft : first.length % 3 = 1) (hfirst : AreBytes first) (hsecond : AreBytes second)
    (h : writtenBytes first = writtenBytes second) : first = second := by
  fun_induction writtenBytes first generalizing second with
  | case1 high middle low rest induction =>
      obtain ⟨otherHigh, otherMiddle, otherLow, others, rfl⟩ :
          ∃ a b c others, second = a :: b :: c :: others := by
        match second, hlength with
        | a :: b :: c :: others, _ => exact ⟨a, b, c, others, rfl⟩
      obtain ⟨hgroup, hrest⟩ := List.append_inj h (by rw [length_symbols, length_symbols])
      have hbytes : AreBytes [high, middle, low] ∧ AreBytes rest :=
        List.forall_mem_append.1 hfirst
      have hothers : AreBytes [otherHigh, otherMiddle, otherLow] ∧ AreBytes others :=
        List.forall_mem_append.1 hsecond
      obtain ⟨rfl, rfl, rfl⟩ := triple_of_symbols_eq hbytes.1 hothers.1 hgroup
      simp only [List.length_cons] at hlength hleft
      rw [induction (by omega) (by omega) hbytes.2 hothers.2 hrest]
  | case2 last =>
      obtain ⟨other, rfl⟩ := List.length_eq_one_iff.1 hlength.symm
      have hlast := hfirst last List.mem_cons_self
      have hother := hsecond other List.mem_cons_self
      rw [eq_of_symbols_eq (by omega) (by omega) h]
  | case3 => simp at hleft
  | case4 => simp at hleft

theorem writtenBytes_subset (values : List Nat) : writtenBytes values ⊆ alphabet.toList := by
  fun_induction writtenBytes values with
  | case1 high middle low rest induction =>
      exact List.append_subset.2 ⟨symbols_subset 4 _, induction⟩
  | case2 last => exact symbols_subset 2 last
  | case3 => exact List.nil_subset _
  | case4 => exact List.nil_subset _

/-- The places of the digest's bytes as they are written. -/
def order : List Nat :=
  (triples.flatMap fun (high, middle, low) => [high, middle, low]) ++ [11]

/-- No byte is left out, and none is written twice. -/
theorem order_perm : order.Perm (List.range 16) := by
  decide

def byteAt (digest : Vector UInt8 16) (index : Nat) : Nat :=
  (digest.toArray.getD index 0).toNat

def orderedBytes (digest : Vector UInt8 16) : List Nat :=
  order.map (byteAt digest)

theorem length_orderedBytes (digest : Vector UInt8 16) : (orderedBytes digest).length = 16 :=
  List.length_map _

theorem areBytes_orderedBytes (digest : Vector UInt8 16) : AreBytes (orderedBytes digest) := by
  intro value hmem
  obtain ⟨index, -, rfl⟩ := List.mem_map.1 hmem
  exact UInt8.toNat_lt _

theorem eq_of_orderedBytes_eq {first second : Vector UInt8 16}
    (h : orderedBytes first = orderedBytes second) : first = second := by
  refine Vector.ext fun index hindex => ?_
  have hmem : index ∈ order := order_perm.mem_iff.2 (List.mem_range.2 hindex)
  have hbyte : byteAt first index = byteAt second index := List.map_inj_left.1 h index hmem
  simpa [byteAt, Array.getD, hindex, UInt8.toNat_inj] using hbyte

theorem digestSymbols_eq_writtenBytes (digest : Vector UInt8 16) :
    digestSymbols digest = writtenBytes (orderedBytes digest) := rfl

theorem digestSymbols_eq_iff {first second : Vector UInt8 16} :
    digestSymbols first = digestSymbols second ↔ first = second := by
  refine ⟨fun h => ?_, fun h => congrArg digestSymbols h⟩
  rw [digestSymbols_eq_writtenBytes, digestSymbols_eq_writtenBytes] at h
  have hlength : (orderedBytes first).length = (orderedBytes second).length := by
    rw [length_orderedBytes, length_orderedBytes]
  have hleft : (orderedBytes first).length % 3 = 1 := by
    rw [length_orderedBytes]
  exact eq_of_orderedBytes_eq (eq_of_writtenBytes_eq hlength hleft (areBytes_orderedBytes first)
    (areBytes_orderedBytes second) h)

/-- Each byte of a digest is written once, in symbols that read back, so different digests never
end as one text: under one salt the texts of two passwords agree just where the digests do. -/
theorem symbols_determine_digest :
    (∀ first second : Vector UInt8 16, digestSymbols first = digestSymbols second ↔ first = second) ∧
    (∀ digest, (digestSymbols digest).length = 22 ∧ digestSymbols digest ⊆ alphabet.toList ∧
      digestSymbols digest = writtenBytes (order.map (byteAt digest))) ∧
    order.Perm (List.range 16) ∧
    (∀ value, number? (symbols 4 value) = some (value % 2 ^ 24) ∧
      number? (symbols 2 value) = some (value % 2 ^ 12)) ∧
    (∀ password salt, (text password salt).toList =
      mark.toList ++ saltText salt ++ '$' :: digestSymbols (finalDigest password (saltBytes salt))) ∧
    ∀ password other salt, text password salt = text other salt ↔
      finalDigest password (saltBytes salt) = finalDigest other (saltBytes salt) := by
  have htext (password : ByteArray) (salt : String) : (text password salt).toList =
      mark.toList ++ saltText salt ++
        '$' :: digestSymbols (finalDigest password (saltBytes salt)) := by
    simp [text]
  refine ⟨fun first second => digestSymbols_eq_iff,
    fun digest => ⟨length_digestSymbols digest, writtenBytes_subset (orderedBytes digest),
      digestSymbols_eq_writtenBytes digest⟩,
    order_perm, fun value => ⟨number?_symbols 4 value, number?_symbols 2 value⟩, htext,
    fun password other salt => ?_⟩
  rw [← digestSymbols_eq_iff, ← String.toList_inj, htext, htext]
  simp

end Messenger.Auth.CryptHash
