import Messenger.Auth.Radix64

/-!
Bytes and their text in symbols of six bits. The text reads back: each symbol stands for its place
in the alphabet, a dash for nothing, and the bits of the places, eight together, are the bytes.
-/

namespace Messenger.Auth.Radix64

open Text (Bytes)

def bits : Nat → Nat → List Bool
  | 0, _ => []
  | count + 1, value => bits count (value / 2) ++ [value % 2 == 1]

def number (bits : List Bool) : Nat :=
  bits.foldl (fun value bit => 2 * value + bit.toNat) 0

@[simp] theorem length_bits (count value : Nat) : (bits count value).length = count := by
  induction count generalizing value with
  | zero => rfl
  | succ count induction => simp [bits, induction]

theorem bits_add (high low value : Nat) :
    bits (high + low) value = bits high (value >>> low) ++ bits low value := by
  induction low generalizing value with
  | zero => simp [bits]
  | succ low induction =>
      rw [← Nat.add_assoc, bits, induction, bits, List.append_assoc, Nat.shiftRight_succ_inside]

theorem bits_add_shiftLeft (count value more : Nat) :
    bits count (value + more <<< count) = bits count value := by
  induction count generalizing value with
  | zero => rfl
  | succ count induction =>
      have hhalf : (value + more <<< (count + 1)) / 2 = value / 2 + more <<< count := by
        rw [Nat.shiftLeft_succ]
        omega
      have hlast : (value + more <<< (count + 1)) % 2 = value % 2 := by
        rw [Nat.shiftLeft_succ]
        omega
      rw [bits, hhalf, induction, hlast, bits]

theorem number_bits (count value : Nat) :
    number (bits count value) + (value >>> count) <<< count = value := by
  induction count generalizing value with
  | zero => simp [bits, number]
  | succ count induction =>
      have hlast : (value % 2 == 1).toNat = value % 2 := by
        rcases Nat.mod_two_eq_zero_or_one value with h | h <;> simp [h]
      have hhalf := induction (value / 2)
      rw [number] at hhalf ⊢
      rw [bits, List.foldl_append, List.foldl_cons, List.foldl_nil, hlast,
        Nat.shiftRight_succ_inside, Nat.shiftLeft_succ]
      omega

/-- Eight bits together are a byte; fewer that are left over are none. -/
def bytesOf (bits : List Bool) : Bytes :=
  if bits.length < 8 then [] else UInt8.ofNat (number (bits.take 8)) :: bytesOf (bits.drop 8)
termination_by bits.length

def bitsOf (bytes : Bytes) : List Bool :=
  bytes.flatMap fun byte => bits 8 byte.toNat

theorem bytesOf_cons (byte : UInt8) (rest : List Bool) :
    bytesOf (bits 8 byte.toNat ++ rest) = byte :: bytesOf rest := by
  have hlength : ¬(bits 8 byte.toNat ++ rest).length < 8 := by simp
  have hnumber : number (bits 8 byte.toNat) = byte.toNat := by
    have hsplit := number_bits 8 byte.toNat
    have hlt := byte.toNat_lt
    simp only [Nat.shiftRight_eq_div_pow, Nat.shiftLeft_eq] at hsplit
    omega
  rw [bytesOf, if_neg hlength, List.take_left' (length_bits 8 _), List.drop_left' (length_bits 8 _),
    hnumber, UInt8.ofNat_toNat]

theorem bytesOf_bitsOf (bytes : Bytes) {rest : List Bool} (hrest : rest.length < 8) :
    bytesOf (bitsOf bytes ++ rest) = bytes := by
  induction bytes with
  | nil =>
      show bytesOf rest = []
      rw [bytesOf, if_pos hrest]
  | cons byte bytes induction =>
      rw [bitsOf, List.flatMap_cons, List.append_assoc, bytesOf_cons, ← bitsOf, induction]

def place? (symbol : Char) : Option Nat :=
  alphabet.toList.findIdx? (· == symbol)

/-- Dashes are dropped; any other character has to be of the alphabet. -/
def decode? (symbols : List Char) : Option Bytes :=
  ((symbols.filter (· != '-')).mapM place?).map fun places => bytesOf (places.flatMap (bits 6))

theorem place?_symbol (value : Nat) : place? (symbol value) = some (value % 64) := by
  have hplaces : ∀ place : Fin 64, place? alphabet[place] = some place.val := by decide
  exact hplaces (Fin.ofNat 64 value)

theorem symbol_mem (value : Nat) :
    symbol value ≠ '-' ∧ symbol value ≠ '=' ∧
      ((symbol value).isAlphanum = true ∨ symbol value = '.' ∨ symbol value = '_') := by
  have hsymbols : ∀ place : Fin 64, alphabet[place] ≠ '-' ∧ alphabet[place] ≠ '=' ∧
      (alphabet[place].isAlphanum = true ∨ alphabet[place] = '.' ∨ alphabet[place] = '_') := by
    decide
  exact hsymbols (Fin.ofNat 64 value)

theorem bits_mod (value : Nat) : bits 6 (value % 64) = bits 6 value := by
  have hsplit : value = value % 64 + (value / 64) <<< 6 := by
    rw [Nat.shiftLeft_eq]
    omega
  conv => rhs; rw [hsplit, bits_add_shiftLeft]

theorem places_of_symbols (values : List Nat) :
    (values.map symbol).mapM place? = some (values.map (· % 64)) := by
  induction values with
  | nil => rfl
  | cons value values induction =>
      rw [List.map_cons, List.mapM_cons, place?_symbol, induction]
      rfl

theorem decode?_symbols (values : List Nat) (count : Nat) :
    decode? (values.map symbol ++ List.replicate count '-') =
      some (bytesOf (values.flatMap (bits 6))) := by
  have hkept : (values.map symbol).filter (· != '-') = values.map symbol :=
    List.filter_eq_self.mpr fun character hmem => by
      obtain ⟨value, -, rfl⟩ := List.mem_map.mp hmem
      simpa using (symbol_mem value).1
  have hbits : (values.map (· % 64)).flatMap (bits 6) = values.flatMap (bits 6) := by
    rw [List.flatMap_map]
    exact congrArg (List.flatMap · values) (funext bits_mod)
  rw [decode?, List.filter_append, hkept, List.filter_replicate_of_neg (by simp), List.append_nil,
    places_of_symbols, Option.map_some, hbits]

/-- The values whose symbols are written, whatever their multiples of sixty-four. -/
def values : Bytes → List Nat
  | first :: second :: third :: rest =>
      let value := (first.toNat * 256 + second.toNat) * 256 + third.toNat
      value / 262144 :: value / 4096 :: value / 64 :: value :: values rest
  | [first, second] =>
      let value := (first.toNat * 256 + second.toNat) * 4
      [value / 4096, value / 64, value]
  | [first] => [first.toNat * 16 / 64, first.toNat * 16]
  | [] => []

/-- The number of symbols that the last group lacks. -/
def lacking (size : Nat) : Nat :=
  (3 - size % 3) % 3

theorem encode_eq (bytes : Bytes) :
    encode bytes = (values bytes).map symbol ++ List.replicate (lacking bytes.length) '=' := by
  fun_induction encode bytes with
  | case1 first second third rest value induction =>
      have hlacking : lacking (first :: second :: third :: rest).length = lacking rest.length := by
        simp only [lacking, List.length_cons]
        omega
      rw [induction, hlacking]
      rfl
  | case2 first second value => rfl
  | case3 first value => rfl
  | case4 => rfl

theorem length_values (bytes : Bytes) :
    (values bytes).length + lacking bytes.length = 4 * ((bytes.length + 2) / 3) := by
  fun_induction values bytes with
  | case1 first second third rest value induction =>
      simp only [lacking, List.length_cons] at induction ⊢
      omega
  | case2 first second value => simp [lacking]
  | case3 first => simp [lacking]
  | case4 => rfl

theorem bits_symbol (count value : Nat) :
    bits (count + 6) value = bits count (value / 64) ++ bits 6 value := by
  rw [bits_add, Nat.shiftRight_eq_div_pow]

theorem bits_byte (count value : Nat) (byte : UInt8) :
    bits (count + 8) (value * 256 + byte.toNat) = bits count value ++ bits 8 byte.toNat := by
  have hlt := byte.toNat_lt
  have hhigh : (value * 256 + byte.toNat) >>> 8 = value := by
    rw [Nat.shiftRight_eq_div_pow]
    omega
  have hlow : value * 256 + byte.toNat = byte.toNat + value <<< 8 := by
    rw [Nat.shiftLeft_eq]
    omega
  rw [bits_add, hhigh, hlow, bits_add_shiftLeft]

theorem bits_fill (count value zeros : Nat) :
    bits (count + zeros) (value <<< zeros) = bits count value ++ List.replicate zeros false := by
  have hzeros : bits zeros 0 = List.replicate zeros false := by
    induction zeros with
    | zero => rfl
    | succ zeros induction => simp [bits, induction, List.replicate_succ']
  have hlow := bits_add_shiftLeft zeros 0 value
  rw [Nat.zero_add, hzeros] at hlow
  rw [bits_add, Nat.shiftLeft_shiftRight, hlow]

theorem bits_two_symbols (count value : Nat) :
    bits (count + 12) value =
      bits count (value / 4096) ++ (bits 6 (value / 64) ++ bits 6 value) := by
  have hdiv : value / 64 / 64 = value / 4096 := by omega
  rw [bits_symbol (count + 6), bits_symbol count, hdiv, List.append_assoc]

theorem bits_of_three (first second third : UInt8) :
    bits 24 ((first.toNat * 256 + second.toNat) * 256 + third.toNat) =
      bits 8 first.toNat ++ (bits 8 second.toNat ++ bits 8 third.toNat) := by
  rw [bits_byte 16, bits_byte 8, List.append_assoc]

theorem bits_of_two (first second : UInt8) :
    bits 18 ((first.toNat * 256 + second.toNat) * 4) =
      bits 8 first.toNat ++ (bits 8 second.toNat ++ List.replicate 2 false) := by
  have hfill := bits_fill 16 (first.toNat * 256 + second.toNat) 2
  rwa [Nat.shiftLeft_eq, bits_byte 8, List.append_assoc] at hfill

theorem bits_of_one (first : UInt8) :
    bits 12 (first.toNat * 16) = bits 8 first.toNat ++ List.replicate 4 false := by
  have hfill := bits_fill 8 first.toNat 4
  rwa [Nat.shiftLeft_eq] at hfill

/-- The symbols carry the bits of the bytes, and zeros for what the last group lacks. -/
theorem bits_values (bytes : Bytes) :
    (values bytes).flatMap (bits 6) =
      bitsOf bytes ++ List.replicate (2 * lacking bytes.length) false := by
  fun_induction values bytes with
  | case1 first second third rest value induction =>
      have hdiv : value / 4096 / 64 = value / 262144 := by omega
      have hsymbols : bits 24 value = bits 6 (value / 262144) ++
          (bits 6 (value / 4096) ++ (bits 6 (value / 64) ++ bits 6 value)) := by
        rw [bits_two_symbols 12, bits_symbol 6, hdiv, List.append_assoc]
      have hlacking : lacking (first :: second :: third :: rest).length = lacking rest.length := by
        simp only [lacking, List.length_cons]
        omega
      calc (value / 262144 :: value / 4096 :: value / 64 :: value :: values rest).flatMap (bits 6)
          = bits 24 value ++ (values rest).flatMap (bits 6) := by
            simp only [List.flatMap_cons, hsymbols, List.append_assoc]
        _ = bitsOf (first :: second :: third :: rest) ++
              List.replicate (2 * lacking (first :: second :: third :: rest).length) false := by
            rw [bits_of_three, induction, hlacking]
            simp only [bitsOf, List.flatMap_cons, List.append_assoc]
  | case2 first second value =>
      have hbytes := bits_of_two first second
      rw [bits_two_symbols 6] at hbytes
      simpa [bitsOf, lacking] using hbytes
  | case3 first =>
      have hbytes := bits_of_one first
      rw [bits_symbol 6] at hbytes
      simpa [bitsOf, lacking] using hbytes
  | case4 => rfl

theorem toList_text (bytes : Bytes) :
    (text bytes).toList =
      (values bytes).map symbol ++ List.replicate (lacking bytes.length) '-' := by
  have hkept : ((values bytes).map symbol).map dashed = (values bytes).map symbol := by
    rw [List.map_map]
    refine List.map_congr_left fun value _ => ?_
    exact if_neg (symbol_mem value).2.1
  rw [text, String.toList_ofList, encode_eq, List.map_append, hkept, List.map_replicate]
  rfl

theorem decode?_text (bytes : Bytes) : decode? (text bytes).toList = some bytes := by
  have hlacking : (List.replicate (2 * lacking bytes.length) false).length < 8 := by
    simp only [List.length_replicate, lacking]
    omega
  rw [toList_text, decode?_symbols, bits_values, bytesOf_bitsOf bytes hlacking]

/-- A text of symbols and dashes as long as its bytes ask for, from which they are read back. -/
theorem text_determines_bytes (bytes : Bytes) :
    (text bytes).toList.length = 4 * ((bytes.length + 2) / 3) ∧
      (∃ symbols, (text bytes).toList =
          symbols ++ List.replicate ((3 - bytes.length % 3) % 3) '-' ∧
        ∀ symbol ∈ symbols, symbol.isAlphanum = true ∨ symbol = '.' ∨ symbol = '_') ∧
      '=' ∉ (text bytes).toList ∧
      decode? (text bytes).toList = some bytes ∧
      ∀ other, text other = text bytes ↔ other = bytes := by
  refine ⟨?_, ⟨(values bytes).map symbol, toList_text bytes, ?_⟩, ?_, decode?_text bytes, ?_⟩
  · rw [toList_text, List.length_append, List.length_map, List.length_replicate, length_values]
  · intro character hmem
    obtain ⟨value, -, rfl⟩ := List.mem_map.mp hmem
    exact (symbol_mem value).2.2
  · rw [toList_text, List.mem_append, not_or]
    refine ⟨fun hmem => ?_, fun hmem => ?_⟩
    · obtain ⟨value, -, hvalue⟩ := List.mem_map.mp hmem
      exact (symbol_mem value).2.1 hvalue
    · exact absurd (List.eq_of_mem_replicate hmem) (by decide)
  · intro other
    refine ⟨fun h => ?_, fun h => by rw [h]⟩
    have hother := decode?_text other
    rw [h, decode?_text bytes] at hother
    exact (Option.some.inj hother).symm

end Messenger.Auth.Radix64
