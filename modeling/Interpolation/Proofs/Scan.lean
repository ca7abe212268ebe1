import Interpolation.Proofs.Replacement
import Interpolation.Proofs.Walk

/-!
# A scan is one walk

A scan searches a text once for every placeholder, orders what it has found and drops what begins
inside the token kept before. Each search skips the tokens of its own placeholder that begin inside
another one, and the ordered list holds tokens of all placeholders mixed. What is kept are still
just the leading tokens, so a scan comes to the same as one walk over the text.
-/

namespace Interpolation

section Search

variable {p : Placeholder} {offset : Nat} {t : Text} {o : Occurrence}

theorem replacedToken?_singleton (p : Placeholder) (offset : Nat) (s : Text) :
    replacedToken? [p] offset s = (p.find? s).map (Placeholder.Found.occurrence p offset) := by
  rw [replacedToken?, firstFound?, List.findSome?_cons, List.findSome?_nil]
  cases p.find? s <;> rfl

theorem locate_split_append {a : Text} (ha : '}' ∉ a) (p : Placeholder) (offset : Nat) (t : Text) :
    Occurrence.locate p offset (p.split (a ++ '}' :: t)).1 =
      (replacedToken? [p] offset (a ++ ['}'])).toList ++
        Occurrence.locate p (offset + Text.byteLength (a ++ ['}'])) (p.split t).1 := by
  rw [replacedToken?_singleton, Placeholder.split_eq, Placeholder.find?_append ha]
  cases hs : p.find? (a ++ ['}']) with
  | some f =>
    have hstop := Occurrence.stop_of_stretch ha (Occurrence.standsIn_of_find? offset hs)
    change _ :: Occurrence.locate p (f.occurrence p offset).stop (p.split t).1 = _
    rw [hstop]
    rfl
  | none =>
    rw [Placeholder.split_eq p t]
    cases p.find? t with
    | none => rfl
    | some f =>
      have hplace : offset + Text.byteLength (a ++ '}' :: f.before) =
          offset + Text.byteLength (a ++ ['}']) + Text.byteLength f.before := by
        simp only [Text.byteLength_append, Text.byteLength_cons, Text.byteLength_nil]
        omega
      simp only [Option.map_some, Option.map_none, Option.toList_none, List.nil_append,
        Occurrence.locate, hplace]

theorem locate_split (p : Placeholder) (offset : Nat) (t : Text) :
    Occurrence.locate p offset (p.split t).1 = replacedTokens [p] offset (Text.stretches t) := by
  induction t using Text.stretch_induction generalizing offset with
  | last a ha =>
    rw [Placeholder.split_open ha]
    by_cases hne : a = []
    · subst hne
      rfl
    · rw [Text.stretches_open ha hne, replacedTokens, replacedToken?_open [p] offset ha]
      rfl
  | more a t ha ih =>
    rw [locate_split_append ha, ih, Text.stretches_append ha, replacedTokens]

theorem mem_occurrences : o ∈ p.occurrences t ↔ o.Replaced [p] 0 t := by
  rw [Placeholder.occurrences, locate_split, mem_replacedTokens]

end Search

def searched (t : Text) : List Occurrence :=
  Placeholder.catalogue.flatMap fun p => p.occurrences t

theorem mem_searched {t : Text} {o : Occurrence} :
    o ∈ searched t ↔ o.Replaced [o.placeholder] 0 t := by
  rw [searched, List.mem_flatMap]
  constructor
  · rintro ⟨p, -, ho⟩
    have hr := mem_occurrences.mp ho
    rwa [List.mem_singleton.mp hr.mem]
  · intro hr
    exact ⟨o.placeholder, Placeholder.mem_catalogue _, mem_occurrences.mpr hr⟩

namespace Occurrence

/-- Tokens of a text in the order of their beginnings. -/
structure Ordered (t : Text) (l : List Occurrence) : Prop where
  stand : ∀ o ∈ l, o.StandsIn 0 t
  sorted : l.Pairwise fun o u => o.start ≤ u.start

variable {t : Text} {l : List Occurrence} {o v : Occurrence} {bound : Nat}

theorem Ordered.of_cons (h : Ordered t (v :: l)) : Ordered t l :=
  ⟨fun o ho => h.stand o (List.mem_cons_of_mem v ho), h.sorted.of_cons⟩

theorem Ordered.stop_of_cons (h : Ordered t (v :: l)) {u : Occurrence} (hu : u ∈ l)
    (hlt : u.start < v.stop) : u.stop = v.stop := by
  have hus := h.stand u (List.mem_cons_of_mem v hu)
  have hle := List.rel_of_pairwise_cons h.sorted hu
  have := start_lt_stop hus
  rcases stop_eq_or_apart hus (h.stand v List.mem_cons_self) with hstop | hbefore | hbehind
  · exact hstop
  · omega
  · omega

/-- Of the tokens of a list that end where `o` ends, `o` begins first. -/
structure Foremost (l : List Occurrence) (o : Occurrence) : Prop where
  mem : o ∈ l
  first : ∀ u ∈ l, u.stop = o.stop → o.start ≤ u.start

theorem Ordered.foremost_head (h : Ordered t (v :: l)) : Foremost (v :: l) v where
  mem := List.mem_cons_self
  first := List.forall_mem_cons.mpr
    ⟨fun _ => Nat.le_refl _, fun _ hu _ => List.rel_of_pairwise_cons h.sorted hu⟩

theorem Ordered.foremost_cons (h : Ordered t (v :: l)) (hle : v.stop ≤ o.start) :
    Foremost (v :: l) o ↔ Foremost l o := by
  constructor
  · rintro ⟨hm, hf⟩
    rcases List.mem_cons.mp hm with rfl | hm
    · have := start_lt_stop (h.stand o List.mem_cons_self)
      omega
    · exact ⟨hm, fun u hu => hf u (List.mem_cons_of_mem v hu)⟩
  · rintro ⟨hm, hf⟩
    have := start_lt_stop (h.stand o (List.mem_cons_of_mem v hm))
    exact ⟨List.mem_cons_of_mem v hm, List.forall_mem_cons.mpr ⟨fun _ => by omega, hf⟩⟩

theorem Ordered.eq_head (h : Ordered t (v :: l)) (ho : Foremost (v :: l) o)
    (hlt : o.start < v.stop) : o = v := by
  rcases List.mem_cons.mp ho.mem with rfl | hol
  · rfl
  · have hov := ho.first v List.mem_cons_self (h.stop_of_cons hol hlt).symm
    have hvo := List.rel_of_pairwise_cons h.sorted hol
    exact eq_of_start (h.stand o ho.mem) (h.stand v List.mem_cons_self) (Nat.le_antisymm hov hvo)

/-- What is kept are the foremost tokens behind the bound. -/
theorem mem_dropOverlaps (h : Ordered t l) (hb : ∀ u ∈ l, u.start < bound → u.stop = bound) :
    o ∈ dropOverlaps bound l ↔ Foremost l o ∧ bound ≤ o.start := by
  induction l generalizing bound with
  | nil =>
    rw [dropOverlaps]
    exact ⟨nofun, fun ho => absurd ho.1.mem List.not_mem_nil⟩
  | cons v l ih =>
    rw [dropOverlaps]
    split
    next hlt =>
      have hvb := hb v List.mem_cons_self hlt
      rw [ih h.of_cons fun u hu => hb u (List.mem_cons_of_mem v hu)]
      exact and_congr_left fun hle => (h.foremost_cons (hvb ▸ hle)).symm
    next hge =>
      have hv := start_lt_stop (h.stand v List.mem_cons_self)
      rw [List.mem_cons, ih h.of_cons fun u hu => h.stop_of_cons hu]
      constructor
      · rintro (rfl | ⟨ho, hle⟩)
        · exact ⟨h.foremost_head, Nat.le_of_not_lt hge⟩
        · exact ⟨(h.foremost_cons hle).mpr ho, by omega⟩
      · rintro ⟨ho, hle⟩
        by_cases hlt : o.start < v.stop
        · exact Or.inl (h.eq_head ho hlt)
        · have hbehind := Nat.le_of_not_lt hlt
          exact Or.inr ⟨(h.foremost_cons hbehind).mp ho, hbehind⟩

theorem pairwise_dropOverlaps (h : Ordered t l)
    (hb : ∀ u ∈ l, u.start < bound → u.stop = bound) :
    (dropOverlaps bound l).Pairwise fun o u => o.stop ≤ u.start := by
  induction l generalizing bound with
  | nil => exact List.Pairwise.nil
  | cons v l ih =>
    rw [dropOverlaps]
    split
    next hlt => exact ih h.of_cons fun u hu => hb u (List.mem_cons_of_mem v hu)
    next hge =>
      have hbehind : ∀ u ∈ l, u.start < v.stop → u.stop = v.stop := fun u hu => h.stop_of_cons hu
      rw [List.pairwise_cons]
      exact ⟨fun u hu => ((mem_dropOverlaps h.of_cons hbehind).mp hu).2, ih h.of_cons hbehind⟩

theorem precedes_trans (o u v : Occurrence) (hou : o.precedes u = true)
    (huv : u.precedes v = true) : o.precedes v = true := by
  simp only [precedes, Bool.or_eq_true, Bool.and_eq_true, decide_eq_true_eq, beq_iff_eq] at *
  omega

theorem precedes_total (o u : Occurrence) : (o.precedes u || u.precedes o) = true := by
  simp only [precedes, Bool.or_eq_true, Bool.and_eq_true, decide_eq_true_eq, beq_iff_eq]
  omega

theorem start_le_of_precedes {o u : Occurrence} (h : o.precedes u = true) :
    o.start ≤ u.start := by
  simp only [precedes, Bool.or_eq_true, Bool.and_eq_true, decide_eq_true_eq, beq_iff_eq] at h
  omega

end Occurrence

section Scan

variable {t : Text} {o u : Occurrence}

theorem scan_eq (t : Text) :
    scan t = Occurrence.dropOverlaps 0 ((searched t).mergeSort Occurrence.precedes) := rfl

theorem ordered_searched (t : Text) :
    Occurrence.Ordered t ((searched t).mergeSort Occurrence.precedes) where
  stand _ ho := (mem_searched.mp (List.mem_mergeSort.mp ho)).stands
  sorted :=
    (List.pairwise_mergeSort Occurrence.precedes_trans Occurrence.precedes_total _).imp
      Occurrence.start_le_of_precedes

theorem mem_searched_of_leading (ho : o.Leading 0 t) : o ∈ searched t := by
  refine mem_searched.mpr ⟨ho.stands, List.mem_singleton_self _, fun u hu hp hstop => ?_⟩
  exact Or.inr ⟨(List.mem_singleton.mp hp).symm, ho.first u hu hstop⟩

theorem exists_searched (hu : u.StandsIn 0 t) :
    ∃ v ∈ searched t, v.stop = u.stop ∧ v.start ≤ u.start := by
  obtain ⟨v, hv, hstop⟩ := exists_replaced hu (List.mem_singleton_self u.placeholder)
  have hp := List.mem_singleton.mp hv.mem
  refine ⟨v, mem_searched.mpr (hp ▸ hv), hstop, ?_⟩
  rcases hv.first u hu (List.mem_singleton_self _) hstop.symm with hlt | heq
  · simp [hp] at hlt
  · exact heq.2

/-- A scan reports the leading tokens. -/
theorem mem_scan : o ∈ scan t ↔ o.Leading 0 t := by
  rw [scan_eq, Occurrence.mem_dropOverlaps (ordered_searched t) fun u _ hlt =>
    absurd hlt (Nat.not_lt_zero _)]
  constructor
  · rintro ⟨⟨ho, hf⟩, -⟩
    refine ⟨(ordered_searched t).stand o ho, fun u hu hstop => ?_⟩
    obtain ⟨v, hv, hvstop, hle⟩ := exists_searched hu
    exact Nat.le_trans (hf v (List.mem_mergeSort.mpr hv) (hvstop.trans hstop)) hle
  · intro ho
    refine ⟨⟨List.mem_mergeSort.mpr (mem_searched_of_leading ho), fun u hu => ?_⟩, Nat.zero_le _⟩
    exact ho.first u ((ordered_searched t).stand u hu)

theorem pairwise_scan (t : Text) : (scan t).Pairwise fun o u => o.stop ≤ u.start := by
  rw [scan_eq]
  exact Occurrence.pairwise_dropOverlaps (ordered_searched t) fun u _ hlt =>
    absurd hlt (Nat.not_lt_zero _)

theorem pairwise_start {l : List Occurrence} (hl : l.Pairwise fun o u => o.stop ≤ u.start)
    (hs : ∀ o ∈ l, o.StandsIn 0 t) : l.Pairwise fun o u => o.start < u.start :=
  hl.imp_of_mem fun ho _ hle => Nat.lt_of_lt_of_le (Occurrence.start_lt_stop (hs _ ho)) hle

theorem eq_of_apart {l m : List Occurrence} (hl : l.Pairwise fun o u => o.stop ≤ u.start)
    (hm : m.Pairwise fun o u => o.stop ≤ u.start) (hs : ∀ o ∈ l, o.StandsIn 0 t)
    (h : ∀ o, o ∈ l ↔ o ∈ m) : l = m := by
  -- two lists in strict order with the same members are the same
  have : Std.Antisymm fun o u : Occurrence => o.start < u.start :=
    ⟨fun _ _ hlt hgt => absurd hgt (Nat.lt_asymm hlt)⟩
  have : Std.Irrefl fun o u : Occurrence => o.start < u.start := ⟨fun _ => Nat.lt_irrefl _⟩
  exact (pairwise_start hl hs).eq_of_mem_iff
    (pairwise_start hm fun o ho => hs o ((h o).mpr ho)) h

theorem scan_eq_walk (t : Text) : scan t = walk 0 t :=
  eq_of_apart (pairwise_scan t) (pairwise_walk 0 t) (fun _ ho => (mem_scan.mp ho).stands)
    fun _ => mem_scan.trans mem_walk.symm

/-- Every token lies within one that is reported. -/
theorem exists_scan (hu : u.StandsIn 0 t) :
    ∃ o ∈ scan t, o.start ≤ u.start ∧ u.stop ≤ o.stop := by
  obtain ⟨o, ho, hstop⟩ := Occurrence.exists_leading hu
  exact ⟨o, mem_scan.mpr ho, ho.first u hu hstop.symm, Nat.le_of_eq hstop.symm⟩

end Scan

namespace Text

/-- The part of a text from one offset to another, unless one of them is inside a character or
beyond the end. -/
def slice? (start stop : Nat) (t : Text) : Option Text :=
  (splitAt? start t).bind fun cut => (splitAt? (stop - start) cut.2).map Prod.fst

end Text

namespace Occurrence

variable {t : Text} {o : Occurrence}

theorem slice?_of_standsIn (h : o.StandsIn 0 t) :
    Text.slice? o.start o.stop t = some o.token := by
  obtain ⟨-, before, after, rfl, hstart, hstop⟩ := h
  have hbefore : o.start = Text.byteLength before := by omega
  have htoken : o.stop - o.start = Text.byteLength o.token := by omega
  rw [Text.slice?, htoken, hbefore, Text.splitAt?_append, Option.bind_some, Text.splitAt?_append]
  rfl

theorem colon_notMem_opening (p : Placeholder) : ':' ∉ p.opening := by
  cases p <;> decide

theorem argument_eq (o : Occurrence) :
    o.argument = (Text.cutFirst ':' o.token).map fun cut => cut.2.dropLast := by
  have hopening := colon_notMem_opening o.placeholder
  rw [token]
  cases o.argument with
  | none =>
    have hcolon : ':' ∉ o.placeholder.opening ++ ['}'] := by simpa using hopening
    rw [Placeholder.written, Text.cutFirst_eq_none hcolon]
    rfl
  | some a =>
    rw [Placeholder.written, Text.cutFirst_append hopening]
    simp

end Occurrence

/-- A scan is the one walk over the text that tells a token wherever one begins and goes on behind
it. What it reports is cut out of the text by its place, on boundaries between characters. The
argument of a token is what stands between its first colon and its last brace. The places come from
left to right and are apart, and every token that stands anywhere in the text lies within one of
them. -/
theorem scan_one_walk (t : Text) :
    scan t = walk 0 t ∧
      (∀ o ∈ scan t, o.start < o.stop ∧ Text.slice? o.start o.stop t = some o.token ∧
        o.placeholder.Admits o.argument ∧
        o.argument = (Text.cutFirst ':' o.token).map fun cut => cut.2.dropLast) ∧
      (scan t).Pairwise (fun o u => o.stop ≤ u.start) ∧
      ∀ u : Occurrence, u.StandsIn 0 t → ∃ o ∈ scan t, o.start ≤ u.start ∧ u.stop ≤ o.stop := by
  refine ⟨scan_eq_walk t, ?_, pairwise_scan t, fun u hu => exists_scan hu⟩
  intro o ho
  have hs := (mem_scan.mp ho).stands
  exact ⟨Occurrence.start_lt_stop hs, Occurrence.slice?_of_standsIn hs, hs.1,
    Occurrence.argument_eq o⟩

end Interpolation
