/-!
Reading from the front of a text. A reader gives what it has read and the text that is left, which
is always shorter, so whatever reads again and again comes to an end. What the text need not have
is passed over.
-/

namespace Messenger.Toml

structure Reader (α : Type) where
  read : List Char → Option (α × List Char)
  shrinks : ∀ {chars : List Char} {value : α} {rest : List Char},
    read chars = some (value, rest) → rest.length < chars.length

instance {α : Type} : CoeFun (Reader α) fun _ => List Char → Option (α × List Char) :=
  ⟨Reader.read⟩

/-- What is passed over, if it is there. -/
structure Skip where
  skip : List Char → List Char
  le : ∀ chars : List Char, (skip chars).length ≤ chars.length

instance : CoeFun Skip fun _ => List Char → List Char :=
  ⟨Skip.skip⟩

theorem length_dropWhile_le (p : Char → Bool) (chars : List Char) :
    (chars.dropWhile p).length ≤ chars.length :=
  (List.dropWhile_suffix p).length_le

namespace Reader

variable {α β : Type}

def one (p : Char → Bool) : Reader Char where
  read
    | [] => none
    | c :: rest => if p c then some (c, rest) else none
  shrinks {chars _ _} h := by
    cases chars with
    | nil => cases h
    | cons c rest =>
        change (if p c then _ else _) = _ at h
        split at h
        · cases h
          simp
        · cases h

def mark (c : Char) : Reader Char :=
  one (· == c)

def run (p : Char → Bool) : Reader (List Char) where
  read
    | [] => none
    | c :: rest => if p c then some (c :: rest.takeWhile p, rest.dropWhile p) else none
  shrinks {chars _ _} h := by
    cases chars with
    | nil => cases h
    | cons c rest =>
        change (if p c then _ else _) = _ at h
        split at h
        · cases h
          exact Nat.lt_succ_of_le (length_dropWhile_le p rest)
        · cases h

def next (count : Nat) : Reader (List Char) where
  read chars :=
    let front := chars.take count
    if 0 < count ∧ front.length = count then some (front, chars.drop count) else none
  shrinks {chars _ _} h := by
    change (if _ then some (chars.take count, chars.drop count) else none) = _ at h
    split at h
    · rename_i hfront
      cases h
      simp only [List.length_take] at hfront
      simp only [List.length_drop]
      omega
    · cases h

def filterMap (f : α → Option β) (reader : Reader α) : Reader β where
  read chars :=
    match reader chars with
    | none => none
    | some (value, rest) => (f value).map fun value => (value, rest)
  shrinks h := by
    split at h
    · cases h
    · rename_i hread
      obtain ⟨_, _, heq⟩ := Option.map_eq_some_iff.1 h
      cases heq
      exact reader.shrinks hread

def map (f : α → β) (reader : Reader α) : Reader β :=
  reader.filterMap fun value => some (f value)

def filter (p : α → Bool) (reader : Reader α) : Reader α :=
  reader.filterMap fun value => if p value then some value else none

def orElse (first second : Reader α) : Reader α where
  read chars := (first chars).or (second chars)
  shrinks h := by
    rcases Option.or_eq_some_iff.1 h with hread | ⟨_, hread⟩
    · exact first.shrinks hread
    · exact second.shrinks hread

def andThen (first : Reader α) (second : α → Reader β) : Reader β where
  read chars :=
    match first chars with
    | none => none
    | some (value, rest) => second value rest
  shrinks h := by
    split at h
    · cases h
    · rename_i value rest hread
      exact Nat.lt_trans ((second value).shrinks h) (first.shrinks hread)

instance : Functor Reader :=
  ⟨map, fun value => map fun _ => value⟩

instance : Bind Reader :=
  ⟨andThen⟩

instance : SeqRight Reader :=
  ⟨fun first second => first.andThen fun _ => second ()⟩

instance : SeqLeft Reader :=
  ⟨fun first second => first.andThen fun value => (second ()).map fun _ => value⟩

instance : OrElse (Reader α) :=
  ⟨fun first second => first.orElse (second ())⟩

def word (chars : List Char) : Reader Unit :=
  (fun _ => ()) <$> (next chars.length).filter (· == chars)

def followed (first : Reader α) (second : Reader β) : Reader (α × Option β) where
  read chars :=
    match first chars with
    | none => none
    | some (value, rest) =>
        match second rest with
        | none => some ((value, none), rest)
        | some (next, rest) => some ((value, some next), rest)
  shrinks h := by
    split at h
    · cases h
    · rename_i hread
      split at h
      · cases h
        exact first.shrinks hread
      · rename_i hnext
        cases h
        exact Nat.lt_trans (second.shrinks hnext) (first.shrinks hread)

def behind (skip : Skip) (reader : Reader α) : Reader α where
  read chars := reader (skip chars)
  shrinks {chars _ _} h := Nat.lt_of_lt_of_le (reader.shrinks h) (skip.le chars)

def before (skip : Skip) (reader : Reader α) : Reader α where
  read chars := (reader chars).map fun (value, rest) => (value, skip rest)
  shrinks h := by
    obtain ⟨⟨_, rest⟩, hread, heq⟩ := Option.map_eq_some_iff.1 h
    cases heq
    exact Nat.lt_of_le_of_lt (skip.le rest) (reader.shrinks hread)

/-- Puts as many values as can be read behind the earlier ones, which come newest first. -/
def readMany (item : Reader α) (earlier : List α) (chars : List Char) : List α × List Char :=
  match _h : item chars with
  | none => (earlier.reverse, chars)
  | some (value, rest) => readMany item (value :: earlier) rest
termination_by chars.length
decreasing_by exact item.shrinks _h

def many (item : Reader α) (chars : List Char) : List α × List Char :=
  readMany item [] chars

theorem length_readMany_le (item : Reader α) (earlier : List α) (chars : List Char) :
    (readMany item earlier chars).2.length ≤ chars.length := by
  fun_induction readMany item earlier chars with
  | case1 => exact Nat.le_refl _
  | case2 _ _ _ _ hread induction =>
      exact Nat.le_trans induction (Nat.le_of_lt (item.shrinks hread))

theorem length_many_le (item : Reader α) (chars : List Char) :
    (item.many chars).2.length ≤ chars.length :=
  length_readMany_le item [] chars

def thenMany (first : Reader α) (item : Reader β) : Reader (α × List β) where
  read chars :=
    match first chars with
    | none => none
    | some (value, rest) =>
        let (values, rest) := item.many rest
        some ((value, values), rest)
  shrinks h := by
    split at h
    · cases h
    · rename_i hread
      cases h
      exact Nat.lt_of_le_of_lt (length_many_le item _) (first.shrinks hread)

def separated (separator : Char) (item : Reader α) : Reader (List α) :=
  (fun (value, values) => value :: values) <$> item.thenMany (mark separator *> item)

end Reader

namespace Skip

variable {α : Type}

def optional (reader : Reader α) : Skip where
  skip chars :=
    match reader chars with
    | none => chars
    | some (_, rest) => rest
  le chars := by
    split
    · exact Nat.le_refl _
    · rename_i hread
      exact Nat.le_of_lt (reader.shrinks hread)

def many (reader : Reader α) : Skip where
  skip chars := (reader.many chars).2
  le := reader.length_many_le

end Skip

def isBlank (c : Char) : Bool :=
  c == ' ' || c == '\t'

def isPlain (c : Char) : Bool :=
  c == '\t' || (0x20 ≤ c.toNat && c != '\x7f')

def newline : Reader Unit :=
  Reader.word ['\n'] <|> Reader.word ['\r', '\n']

def comment : Reader Unit :=
  (fun _ => ()) <$> (Reader.mark '#').before (.optional (Reader.run isPlain))

def someBlanks : Reader Unit :=
  (fun _ => ()) <$> Reader.run isBlank

def blanks : Skip :=
  .optional someBlanks

def blankLines : Skip :=
  .many (someBlanks <|> newline)

def gap : Skip :=
  .many (someBlanks <|> newline <|> comment)

namespace Reader

variable {α : Type}

/-- The end of a line is also where the text ends. -/
def atLineEnd (reader : Reader α) : Reader α where
  read chars :=
    match (reader.before blanks).before (.optional comment) chars with
    | none => none
    | some (value, []) => some (value, [])
    | some (value, rest) => (newline rest).map fun (_, rest) => (value, rest)
  shrinks h := by
    split at h
    · cases h
    · rename_i hread
      cases h
      exact Reader.shrinks _ hread
    · rename_i hread
      obtain ⟨⟨_, _⟩, hline, heq⟩ := Option.map_eq_some_iff.1 h
      cases heq
      exact Nat.lt_trans (newline.shrinks hline) (Reader.shrinks _ hread)

end Reader

end Messenger.Toml
