import Messenger.Proofs.Text.Runs
import Messenger.Toml.Scan

/-!
What readers made from others read. Each way of making one has an equation, and the readers of
characters have one lemma for text that fits and one for text that does not.
-/

namespace Messenger.Toml

open Text (NoHead IsRun noHead_nil noHead_cons noHead_or_iff)

namespace Reader

variable {α β : Type}

@[simp] theorem read_filterMap (f : α → Option β) (reader : Reader α) (chars : List Char) :
    (reader.filterMap f).read chars =
      (reader.read chars).bind fun read => (f read.1).map fun value => (value, read.2) := by
  simp only [filterMap]
  cases reader.read chars <;> rfl

@[simp] theorem read_map (f : α → β) (reader : Reader α) (chars : List Char) :
    (f <$> reader).read chars = (reader.read chars).map fun read => (f read.1, read.2) := by
  change (reader.filterMap fun value => some (f value)).read chars = _
  rw [read_filterMap]
  cases reader.read chars <;> rfl

@[simp] theorem read_filter (p : α → Bool) (reader : Reader α) (chars : List Char) :
    (reader.filter p).read chars = (reader.read chars).filter fun read => p read.1 := by
  change (reader.filterMap fun value => if p value then some value else none).read chars = _
  rw [read_filterMap]
  cases reader.read chars with
  | none => rfl
  | some read =>
      cases hp : p read.1 <;> simp [hp, Option.filter]

@[simp] theorem read_orElse (first second : Reader α) (chars : List Char) :
    (first <|> second).read chars = (first.read chars).or (second.read chars) := rfl

@[simp] theorem read_bind (reader : Reader α) (next : α → Reader β) (chars : List Char) :
    (reader >>= next).read chars =
      (reader.read chars).bind fun read => (next read.1).read read.2 := by
  simp only [Bind.bind, andThen]
  cases reader.read chars <;> rfl

@[simp] theorem read_seqRight (first : Reader α) (second : Reader β) (chars : List Char) :
    (first *> second).read chars = (first.read chars).bind fun read => second.read read.2 :=
  read_bind first (fun _ => second) chars

@[simp] theorem read_seqLeft (first : Reader α) (second : Reader β) (chars : List Char) :
    (first <* second).read chars = (first.read chars).bind fun read =>
      (second.read read.2).map fun after => (read.1, after.2) := by
  have hbind := read_bind first (fun value => second.map fun _ => value) chars
  refine hbind.trans ?_
  cases first.read chars with
  | none => rfl
  | some read => exact read_map (fun _ => read.1) second read.2

@[simp] theorem read_followed (first : Reader α) (second : Reader β) (chars : List Char) :
    (first.followed second).read chars = (first.read chars).map fun read =>
      ((read.1, (second.read read.2).map Prod.fst), ((second.read read.2).map Prod.snd).getD read.2) := by
  simp only [followed]
  cases first.read chars with
  | none => rfl
  | some read => cases h : second.read read.2 <;> simp [h]

@[simp] theorem read_behind (skip : Skip) (reader : Reader α) (chars : List Char) :
    (reader.behind skip).read chars = reader.read (skip chars) := rfl

@[simp] theorem read_before (skip : Skip) (reader : Reader α) (chars : List Char) :
    (reader.before skip).read chars =
      (reader.read chars).map fun read => (read.1, skip read.2) := rfl

theorem read_one_of_noHead {p : Char → Bool} {chars : List Char} (h : NoHead p chars) :
    (one p).read chars = none := by
  cases chars with
  | nil => rfl
  | cons c rest => exact if_neg (by simpa using h)

theorem read_one_cons {p : Char → Bool} {c : Char} {rest : List Char} (h : p c = true) :
    (one p).read (c :: rest) = some (c, rest) :=
  if_pos h

theorem read_mark_of_noHead {c : Char} {chars : List Char} (h : NoHead (· == c) chars) :
    (mark c).read chars = none :=
  read_one_of_noHead h

@[simp] theorem read_mark_self (c : Char) (rest : List Char) :
    (mark c).read (c :: rest) = some (c, rest) :=
  read_one_cons (by simp)

theorem read_run_of_noHead {p : Char → Bool} {chars : List Char} (h : NoHead p chars) :
    (run p).read chars = none := by
  cases chars with
  | nil => rfl
  | cons c rest => exact if_neg (by simpa using h)

theorem read_run_append {p : Char → Bool} {front rest : List Char} (hfront : IsRun p front)
    (hrest : NoHead p rest) : (run p).read (front ++ rest) = some (front, rest) := by
  have htake := hfront.takeWhile_append hrest
  have hdrop := hfront.dropWhile_append hrest
  obtain ⟨c, front, rfl⟩ := List.exists_cons_of_ne_nil hfront.ne_nil
  have hc : p c = true := hfront.all c List.mem_cons_self
  have hread : (run p).read (c :: (front ++ rest)) =
      some (c :: (front ++ rest).takeWhile p, (front ++ rest).dropWhile p) := if_pos hc
  rw [List.cons_append] at htake hdrop ⊢
  rw [List.takeWhile_cons_of_pos hc] at htake
  rw [List.dropWhile_cons_of_pos hc] at hdrop
  rw [hread, htake, hdrop]

theorem read_next (count : Nat) (chars : List Char) :
    (next count).read chars =
      if 0 < count ∧ (chars.take count).length = count then
        some (chars.take count, chars.drop count) else none := rfl

theorem read_word_append {word rest : List Char} (hword : word ≠ []) :
    (Reader.word word).read (word ++ rest) = some ((), rest) := by
  have hlength : 0 < word.length := List.length_pos_iff.2 hword
  simp [Reader.word, read_next, hlength]

theorem read_word_eq_none {word chars : List Char} (h : ¬ word <+: chars) :
    (Reader.word word).read chars = none := by
  have hne : chars.take word.length ≠ word := fun heq => h (heq ▸ List.take_prefix _ _)
  simp only [Reader.word, read_map, read_filter, read_next]
  split <;> simp [hne, Option.filter]

theorem read_word_of_noHead {c : Char} {word chars : List Char} (h : NoHead (· == c) chars) :
    (Reader.word (c :: word)).read chars = none := by
  refine read_word_eq_none fun hprefix => ?_
  obtain ⟨rest, rfl⟩ := hprefix
  simp at h

theorem readMany_of_none {item : Reader α} {chars : List Char} (h : item.read chars = none)
    (earlier : List α) : readMany item earlier chars = (earlier.reverse, chars) := by
  rw [readMany.eq_def]
  split
  · rfl
  · simp_all

theorem readMany_of_some {item : Reader α} {chars rest : List Char} {value : α}
    (h : item.read chars = some (value, rest)) (earlier : List α) :
    readMany item earlier chars = readMany item (value :: earlier) rest := by
  rw [readMany.eq_def]
  split
  · simp_all
  · simp_all

theorem readMany_append (item : Reader α) (recent earlier : List α) (chars : List Char) :
    readMany item (recent ++ earlier) chars =
      (earlier.reverse ++ (readMany item recent chars).1, (readMany item recent chars).2) := by
  fun_induction readMany item recent chars with
  | case1 recent chars hread => simp [readMany_of_none hread]
  | case2 recent chars value rest hread induction =>
      rw [readMany_of_some hread (recent ++ earlier)]
      exact induction

theorem many_of_none {item : Reader α} {chars : List Char} (h : item.read chars = none) :
    item.many chars = ([], chars) :=
  readMany_of_none h []

theorem many_of_some {item : Reader α} {chars rest : List Char} {value : α}
    (h : item.read chars = some (value, rest)) :
    item.many chars = (value :: (item.many rest).1, (item.many rest).2) :=
  (readMany_of_some h []).trans (readMany_append item [] [value] rest)

@[simp] theorem read_thenMany (first : Reader α) (item : Reader β) (chars : List Char) :
    (first.thenMany item).read chars = (first.read chars).map fun read =>
      ((read.1, (item.many read.2).1), (item.many read.2).2) := by
  simp only [thenMany]
  cases first.read chars <;> rfl

/-- No separator comes behind the only item. -/
theorem read_separated_one {separator : Char} {item : Reader α} {chars rest : List Char}
    {value : α} (hitem : item.read chars = some (value, rest))
    (hrest : NoHead (· == separator) rest) :
    (item.separated separator).read chars = some ([value], rest) := by
  have hmark : (mark separator *> item).read rest = none := by
    rw [read_seqRight, read_mark_of_noHead hrest, Option.bind_none]
  simp [separated, hitem, many_of_none hmark]

end Reader

section Lines

variable {α : Type} {reader : Reader α} {chars rest : List Char} {value : α}

theorem Skip.optional_of_none (h : reader.read chars = none) :
    Skip.optional reader chars = chars := by
  simp [Skip.optional, h]

theorem Skip.optional_of_some (h : reader.read chars = some (value, rest)) :
    Skip.optional reader chars = rest := by
  simp [Skip.optional, h]

theorem blanks_of_noHead (h : NoHead isBlank chars) : blanks chars = chars :=
  Skip.optional_of_none (by simp [someBlanks, Reader.read_run_of_noHead h])

theorem blanks_space (h : NoHead isBlank chars) : blanks (' ' :: chars) = chars := by
  have hrun : (Reader.run isBlank).read (' ' :: chars) = some ([' '], chars) :=
    Reader.read_run_append ⟨List.cons_ne_nil ' ' [], by simp [isBlank]⟩ h
  have hread : someBlanks.read (' ' :: chars) = some ((), chars) := by
    simp [someBlanks, hrun]
  exact Skip.optional_of_some hread

theorem read_newline_lineFeed (rest : List Char) : newline.read ('\n' :: rest) = some ((), rest) := by
  have hword : (Reader.word ['\n']).read ('\n' :: rest) = some ((), rest) :=
    Reader.read_word_append (List.cons_ne_nil '\n' [])
  simp [newline, hword]

theorem read_newline_of_noHead (h : NoHead (fun c => c == '\n' || c == '\r') chars) :
    newline.read chars = none := by
  obtain ⟨hfeed, hreturn⟩ := noHead_or_iff.1 h
  simp [newline, Reader.read_word_of_noHead hfeed, Reader.read_word_of_noHead hreturn]

theorem read_comment_of_noHead (h : NoHead (· == '#') chars) : comment.read chars = none := by
  simp [comment, Reader.read_mark_of_noHead h]

theorem Reader.read_atLineEnd_lineFeed (h : reader.read chars = some (value, '\n' :: rest)) :
    reader.atLineEnd.read chars = some (value, rest) := by
  have hblanks : blanks ('\n' :: rest) = '\n' :: rest := blanks_of_noHead (by simp [isBlank])
  have hcomment : Skip.optional comment ('\n' :: rest) = '\n' :: rest :=
    Skip.optional_of_none (read_comment_of_noHead (by simp))
  simp [Reader.atLineEnd, h, hblanks, hcomment, read_newline_lineFeed]

theorem Reader.read_atLineEnd_of_none (h : reader.read chars = none) :
    reader.atLineEnd.read chars = none := by
  simp [Reader.atLineEnd, h]

end Lines

end Messenger.Toml
