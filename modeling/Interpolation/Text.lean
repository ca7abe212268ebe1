/-!
# Text

A text is a list of characters. Offsets into a text count UTF-8 bytes. The cuts below split a text
at one separator and lose nothing: putting the separator back gives the text again.
-/

namespace Interpolation

/-- A text is the list of its characters. -/
abbrev Text := List Char

namespace Text

/-- The length of a text in UTF-8 bytes. -/
def byteLength (t : Text) : Nat :=
  t.foldr (fun c n => c.utf8Size + n) 0

@[simp] theorem byteLength_nil : byteLength [] = 0 := rfl

@[simp] theorem byteLength_cons (c : Char) (t : Text) :
    byteLength (c :: t) = c.utf8Size + byteLength t := rfl

@[simp] theorem byteLength_append (t u : Text) :
    byteLength (t ++ u) = byteLength t + byteLength u := by
  induction t with
  | nil => simp
  | cons c t ih => simp [ih, Nat.add_assoc]

/-- The sum of some numbers. -/
def total (ns : List Nat) : Nat :=
  ns.foldr (fun n sum => n + sum) 0

/-- Split at an offset, unless it is inside a character or beyond the end. -/
def splitAt? : Nat → Text → Option (Text × Text)
  | 0, t => some ([], t)
  | _ + 1, [] => none
  | n + 1, c :: t =>
    if c.utf8Size ≤ n + 1 then
      (splitAt? (n + 1 - c.utf8Size) t).map fun (before, after) => (c :: before, after)
    else none

def replaceChar (old new : Char) (t : Text) : Text :=
  t.map fun c => if c = old then new else c

/-- Cut at the first `sep`: the text before it and the text after it. -/
def cutFirst (sep : Char) : Text → Option (Text × Text)
  | [] => none
  | c :: t =>
    if c = sep then some ([], t)
    else (cutFirst sep t).map fun (before, after) => (c :: before, after)

theorem eq_of_cutFirst {sep : Char} {t before after : Text}
    (h : cutFirst sep t = some (before, after)) : t = before ++ sep :: after ∧ sep ∉ before := by
  induction t generalizing before with
  | nil => simp [cutFirst] at h
  | cons c t ih =>
    by_cases hc : c = sep
    · simp_all [cutFirst]
    · rw [cutFirst, if_neg hc, Option.map_eq_some_iff] at h
      obtain ⟨⟨b, a⟩, hcut, heq⟩ := h
      obtain ⟨rfl, rfl⟩ := Prod.mk.inj heq
      have := ih hcut
      simp_all [eq_comm]

theorem cutFirst_append {sep : Char} {a : Text} (ha : sep ∉ a) (t : Text) :
    cutFirst sep (a ++ sep :: t) = some (a, t) := by
  induction a with
  | nil => simp [cutFirst]
  | cons c a ih =>
    simp only [List.mem_cons, not_or] at ha
    simp [cutFirst, Ne.symm ha.1, ih ha.2]

theorem cutFirst_eq_none {sep : Char} {a : Text} (ha : sep ∉ a) : cutFirst sep a = none := by
  cases h : cutFirst sep a with
  | none => rfl
  | some cut =>
    rw [(eq_of_cutFirst h).1] at ha
    simp at ha

def cutLast (sep : Char) : Text → Option (Text × Text)
  | [] => none
  | c :: t =>
    match cutLast sep t with
    | some (before, after) => some (c :: before, after)
    | none => if c = sep then some ([], t) else none

theorem cutLast_eq_none {sep : Char} {t : Text} : cutLast sep t = none ↔ sep ∉ t := by
  induction t with
  | nil => simp [cutLast]
  | cons c t ih =>
    rw [cutLast]
    split
    · next h => simp_all
    · by_cases hc : c = sep
      · simp [hc]
      · simp_all [eq_comm]

theorem eq_of_cutLast {sep : Char} {t before after : Text}
    (h : cutLast sep t = some (before, after)) : t = before ++ sep :: after ∧ sep ∉ after := by
  induction t generalizing before with
  | nil => simp [cutLast] at h
  | cons c t ih =>
    rw [cutLast] at h
    split at h
    · next b a hcut =>
      obtain ⟨rfl, rfl⟩ := Prod.mk.inj (Option.some.inj h)
      have := ih hcut
      simp_all
    · next hcut =>
      have := cutLast_eq_none.1 hcut
      by_cases hc : c = sep <;> simp_all

theorem cutLast_append {sep : Char} {after : Text} (before : Text) (h : sep ∉ after) :
    cutLast sep (before ++ sep :: after) = some (before, after) := by
  induction before with
  | nil => simp [cutLast, cutLast_eq_none.mpr h]
  | cons c before ih => simp [cutLast, ih]

theorem exists_cutLast {sep : Char} {t : Text} (h : sep ∈ t) :
    ∃ before after, t = before ++ sep :: after ∧ sep ∉ after := by
  cases hcut : cutLast sep t with
  | none => exact absurd h (cutLast_eq_none.mp hcut)
  | some cut => exact ⟨cut.1, cut.2, eq_of_cutLast hcut⟩

private theorem cons_isPrefixOf?_cons (c d : Char) (s t : Text) :
    (c :: s).isPrefixOf? (d :: t) = if c == d then s.isPrefixOf? t else none := rfl

theorem isPrefixOf?_eq_some {s t rest : Text} : s.isPrefixOf? t = some rest ↔ t = s ++ rest := by
  induction s generalizing t with
  | nil =>
    change some t = some rest ↔ t = rest
    exact Option.some_inj
  | cons c s ih =>
    cases t with
    | nil =>
      change none = some rest ↔ [] = c :: s ++ rest
      simp
    | cons d t =>
      by_cases h : c = d
      · subst h
        simp [cons_isPrefixOf?_cons, ih]
      · simp [cons_isPrefixOf?_cons, h, Ne.symm h]

/-- Drop every `c` at the end. -/
def dropTrailing (c : Char) (t : Text) : Text :=
  (t.reverse.dropWhile (· == c)).reverse

/-- The lines of a text, each without its line end: a line feed, or a carriage return with one. No
line follows the last line end. -/
def lines (t : Text) : List Text :=
  let parts := t.splitOn '\n'
  let isReturned (line : Text) : Bool := line.getLast? == some '\r'
  let ended := parts.dropLast.map fun line => if isReturned line then line.dropLast else line
  ended ++ (parts.getLast?.filter fun line => !line.isEmpty).toList

def padRight (width : Nat) (t : Text) : Text :=
  t ++ List.replicate (width - t.length) ' '

def padLeft (fill : Char) (width : Nat) (t : Text) : Text :=
  List.replicate (width - t.length) fill ++ t

/-- The decimal digits of a number. -/
def ofNat (n : Nat) : Text :=
  Nat.toDigits 10 n

/-- The decimal digits of a number, after a minus sign below zero. -/
def ofInt : Int → Text
  | .ofNat n => ofNat n
  | .negSucc n => '-' :: ofNat (n + 1)

/-- The number that a run of decimal digits writes; nothing else is read, and no empty run. -/
def digits? : Text → Option Nat
  | [] => none
  | t => if t.all Char.isDigit then some (t.foldl (fun n c => 10 * n + (c.toNat - '0'.toNat)) 0)
    else none

end Text

end Interpolation
