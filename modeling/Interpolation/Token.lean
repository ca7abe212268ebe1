import Interpolation.Placeholder

/-!
# Tokens in a text

The argument of a token is the text up to the first closing brace, on one line. The tokens of one
placeholder are found from left to right, each search going on behind the last token. A scan gathers
the tokens of all placeholders, orders them by their place, and drops those that begin inside the
one kept before.
-/

namespace Interpolation

/-- Read an argument: the text up to the first closing brace, on one line. -/
def argument? : Text → Option (Text × Text)
  | [] => none
  | c :: t =>
    if c = '}' then some ([], t)
    else if c = '\n' then none
    else (argument? t).map fun (a, rest) => (c :: a, rest)

/-- Arguments have no closing brace and no line break. -/
def IsArgument (a : Text) : Prop :=
  '}' ∉ a ∧ '\n' ∉ a

instance : DecidablePred IsArgument :=
  fun a => inferInstanceAs (Decidable ('}' ∉ a ∧ '\n' ∉ a))

theorem argument?_append {a : Text} (ha : IsArgument a) (rest : Text) :
    argument? (a ++ '}' :: rest) = some (a, rest) := by
  induction a with
  | nil => simp [argument?]
  | cons c a ih =>
    obtain ⟨h₁, h₂⟩ := ha
    simp only [List.mem_cons, not_or] at h₁ h₂
    simp [argument?, Ne.symm h₁.1, Ne.symm h₂.1, ih ⟨h₁.2, h₂.2⟩]

theorem eq_of_argument? {t a rest : Text} (h : argument? t = some (a, rest)) :
    t = a ++ '}' :: rest ∧ IsArgument a := by
  induction t generalizing a with
  | nil => simp [argument?] at h
  | cons c t ih =>
    by_cases h₁ : c = '}'
    · simp_all [argument?, IsArgument]
    by_cases h₂ : c = '\n'
    · simp [argument?, h₂] at h
    rw [argument?, if_neg h₁, if_neg h₂, Option.map_eq_some_iff] at h
    obtain ⟨⟨b, r⟩, hr, heq⟩ := h
    obtain ⟨rfl, rfl⟩ := Prod.mk.inj heq
    obtain ⟨rfl, hb⟩ := ih hr
    exact ⟨rfl, by simp [Ne.symm h₁, hb.1], by simp [Ne.symm h₂, hb.2]⟩

namespace Placeholder

/-- The arguments that a token of the placeholder can have. -/
def Admits (p : Placeholder) : Option Text → Prop
  | none => p.takesArgument = false
  | some a => p.takesArgument = true ∧ IsArgument a

instance (p : Placeholder) : DecidablePred p.Admits
  | none => inferInstanceAs (Decidable (p.takesArgument = false))
  | some a => inferInstanceAs (Decidable (p.takesArgument = true ∧ IsArgument a))

/-- Read a token of the placeholder at the very beginning of a text: its argument and the text
after it. -/
def read? (p : Placeholder) : Text → Option (Option Text × Text)
  | '$' :: '{' :: t =>
    match p.name.toList.isPrefixOf? t with
    | none => none
    | some t =>
      if p.takesArgument then
        match t with
        | ':' :: t => (argument? t).map fun (a, rest) => (some a, rest)
        | _ => none
      else
        match t with
        | '}' :: t => some (none, t)
        | _ => none
  | _ => none

/-- Reading a token undoes writing it. -/
theorem read?_eq_some {p : Placeholder} {t : Text} {a : Option Text} {rest : Text} :
    p.read? t = some (a, rest) ↔ t = p.written a ++ rest ∧ p.Admits a := by
  constructor
  · intro h
    rw [read?.eq_def] at h
    split at h
    next t =>
      split at h
      · cases h
      next u hu =>
      rw [Text.isPrefixOf?_eq_some.1 hu]
      split at h
      next harg =>
        split at h
        next u =>
          rw [Option.map_eq_some_iff] at h
          obtain ⟨⟨b, r⟩, hr, heq⟩ := h
          obtain ⟨rfl, rfl⟩ := Prod.mk.inj heq
          obtain ⟨rfl, hb⟩ := eq_of_argument? hr
          exact ⟨by simp [written, opening], harg, hb⟩
        next => cases h
      next harg =>
        split at h
        next u =>
          obtain ⟨rfl, rfl⟩ := Prod.mk.inj (Option.some.inj h)
          exact ⟨by simp [written, opening], by simpa [Admits] using harg⟩
        next => cases h
    next => cases h
  · rintro ⟨rfl, ha⟩
    cases a with
    | none =>
      have : p.name.toList.isPrefixOf? (p.name.toList ++ '}' :: rest) = some ('}' :: rest) :=
        Text.isPrefixOf?_eq_some.2 rfl
      simp only [written, opening, List.cons_append, List.append_assoc, List.nil_append, read?,
        this]
      rw [if_neg (by simpa [Admits] using ha)]
    | some a =>
      have : p.name.toList.isPrefixOf? (p.name.toList ++ ':' :: (a ++ '}' :: rest)) =
          some (':' :: (a ++ '}' :: rest)) :=
        Text.isPrefixOf?_eq_some.2 rfl
      simp only [written, opening, List.cons_append, List.append_assoc, List.nil_append, read?,
        this]
      rw [if_pos ha.1, argument?_append ha.2]
      rfl

/-- A found token: the text before it, its argument and the text after it. -/
structure Found where
  before : Text
  argument : Option Text
  after : Text
  deriving DecidableEq, Repr

/-- The leftmost token of the placeholder. -/
def find? (p : Placeholder) : Text → Option Found
  | [] => none
  | c :: t =>
    match p.read? (c :: t) with
    | some (a, rest) => some ⟨[], a, rest⟩
    | none => (p.find? t).map fun f => { f with before := c :: f.before }

theorem eq_of_find? {p : Placeholder} {t : Text} {f : Found} (h : p.find? t = some f) :
    t = f.before ++ (p.written f.argument ++ f.after) ∧ p.Admits f.argument := by
  induction t generalizing f with
  | nil => simp [find?] at h
  | cons c t ih =>
    rw [find?] at h
    split at h
    next a rest hr =>
      obtain rfl := Option.some.inj h
      simpa using read?_eq_some.1 hr
    next =>
      rw [Option.map_eq_some_iff] at h
      obtain ⟨g, hg, rfl⟩ := h
      obtain ⟨ht, ha⟩ := ih hg
      exact ⟨by rw [ht]; simp, ha⟩

theorem written_length_pos (p : Placeholder) (a : Option Text) : 0 < (p.written a).length := by
  cases a <;> simp [written, opening]

theorem length_after_lt {p : Placeholder} {t : Text} {f : Found} (h : p.find? t = some f) :
    f.after.length < t.length := by
  have := congrArg List.length (eq_of_find? h).1
  have := p.written_length_pos f.argument
  simp only [List.length_append] at *
  omega

/-- All tokens of the placeholder, each with the text between it and the one before, and the text
behind the last. -/
def split (p : Placeholder) (t : Text) : List (Text × Option Text) × Text :=
  match h : p.find? t with
  | none => ([], t)
  | some f =>
    have := length_after_lt h
    let (more, tail) := p.split f.after
    ((f.before, f.argument) :: more, tail)
termination_by t.length

/-- Whether a token of the placeholder stands anywhere in the text. -/
def occursIn (p : Placeholder) (t : Text) : Bool :=
  (p.find? t).isSome

end Placeholder

/-- A token at its place: the byte offsets of its beginning and of its end. -/
structure Occurrence where
  placeholder : Placeholder
  argument : Option Text
  start : Nat
  stop : Nat
  deriving DecidableEq, Repr

namespace Occurrence

def token (o : Occurrence) : Text :=
  o.placeholder.written o.argument

def precedes (o u : Occurrence) : Bool :=
  o.start < u.start || (o.start == u.start && o.stop ≤ u.stop)

def locate (p : Placeholder) (offset : Nat) : List (Text × Option Text) → List Occurrence
  | [] => []
  | (before, argument) :: rest =>
    let start := offset + Text.byteLength before
    let stop := start + Text.byteLength (p.written argument)
    ⟨p, argument, start, stop⟩ :: locate p stop rest

def dropOverlaps (bound : Nat) : List Occurrence → List Occurrence
  | [] => []
  | o :: rest =>
    if o.start < bound then dropOverlaps bound rest else o :: dropOverlaps o.stop rest

end Occurrence

def Placeholder.occurrences (p : Placeholder) (t : Text) : List Occurrence :=
  Occurrence.locate p 0 (p.split t).1

/-- The tokens of a text in the order of their places; of overlapping ones the first is kept. -/
def scan (t : Text) : List Occurrence :=
  let found := Placeholder.catalogue.flatMap fun p => p.occurrences t
  Occurrence.dropOverlaps 0 (found.mergeSort Occurrence.precedes)

/-- Whether a text still holds a token that asks for another pass. -/
def hasResidual (t : Text) : Bool :=
  Placeholder.catalogue.any fun p => p.triggersRecursion && p.occursIn t

end Interpolation
