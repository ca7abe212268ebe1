import Interpolation.Settings

/-!
# Settings under dotted keys

A key is looked up as it stands, and then segment by segment through nested tables. Storing a value
under a key is seen under that key at once, dots and all. Of the other keys it is seen only under
those whose first segment is the key and that are not stored themselves: they go on from the value
with their remaining segments.
-/

namespace Interpolation

namespace Value

/-- Going through nested tables, key by key, leads from one value to another. -/
inductive Leads : Value → List Text → Value → Prop
  | stay (v : Value) : Leads v [] v
  | enter {entries : Table Value} {key : Text} {keys : List Text} {v w : Value} :
    entries.lookup key = some v → Leads v keys w → Leads (.table entries) (key :: keys) w

/-- The way stops at a key that a table lacks, or in front of a value that is no table. -/
def Stops (v : Value) (keys : List Text) : Prop :=
  ∃ front key back u, keys = front ++ key :: back ∧ Leads v front u ∧
    ∀ entries, u = .table entries → entries.lookup key = none

variable {u v w : Value} {keys front rest : List Text}

theorem descend?_eq_some : v.descend? keys = some w ↔ v.Leads keys w := by
  constructor
  · intro h
    fun_induction descend? v keys with
    | case1 v =>
      obtain rfl := Option.some.inj h
      exact .stay v
    | case2 entries key keys next hnext ih => exact .enter hnext (ih h)
    | case3 => cases h
    | case4 => cases h
  · intro h
    induction h with
    | stay v => rw [descend?]
    | enter hnext _ ih =>
      rw [descend?, hnext]
      exact ih

theorem Leads.descend?_append (h : v.Leads front u) :
    v.descend? (front ++ rest) = u.descend? rest := by
  induction h with
  | stay v => rfl
  | enter hnext _ ih =>
    rw [List.cons_append, descend?, hnext]
    exact ih

theorem descend?_eq_none : v.descend? keys = none ↔ v.Stops keys := by
  constructor
  · intro h
    fun_induction descend? v keys with
    | case1 v => cases h
    | case2 entries key keys next hnext ih =>
      obtain ⟨front, stop, back, u, rfl, hlead, hlack⟩ := ih h
      exact ⟨key :: front, stop, back, u, rfl, .enter hnext hlead, hlack⟩
    | case3 entries key keys hnone =>
      refine ⟨[], key, keys, _, rfl, .stay _, ?_⟩
      rintro _ ⟨rfl⟩
      exact hnone
    | case4 v key keys hother =>
      exact ⟨[], key, keys, v, rfl, .stay v, fun entries hv => absurd hv (hother entries)⟩
  · rintro ⟨front, key, back, u, rfl, hlead, hlack⟩
    rw [hlead.descend?_append]
    cases u with
    | table entries => rw [descend?, hlack entries rfl]
    | _ => rfl

theorem descend?_insert (entries : Table Value) (key first : Text) (v : Value)
    (rest : List Text) :
    (Value.table (entries.insert key v)).descend? (first :: rest) =
      if first = key then v.descend? rest else (Value.table entries).descend? (first :: rest) := by
  rw [descend?, Table.lookup_insert]
  by_cases h : first = key
  · simp [h]
  · simp only [h, if_false]
    rw [descend?]

end Value

namespace Settings

/-- Store some values, one after the other. -/
def insertAll (s : Settings) (inserted : List (Text × Value)) : Settings :=
  inserted.foldl (fun s entry => s.insert entry.1 entry.2) s

variable {s : Settings} {key other : Text} {v w : Value} {rest : List Text}

theorem lookup_insertAll (s : Settings) (inserted : List (Text × Value)) (key : Text) :
    (s.insertAll inserted).entries.lookup key =
      (inserted.reverse.lookup key).or (s.entries.lookup key) := by
  induction inserted generalizing s with
  | nil => rfl
  | cons entry inserted ih =>
    obtain ⟨stored, v⟩ := entry
    change ((s.insert stored v).insertAll inserted).entries.lookup key = _
    rw [ih, List.reverse_cons, List.lookup_append, Option.or_assoc, insert, Table.lookup_insert,
      Table.lookup_cons]
    split <;> rfl

theorem dot_notMem_of_segments {part : Text} (h : part ∈ segments key) : '.' ∉ part := by
  unfold segments at h
  induction key generalizing part with
  | nil =>
    rw [List.splitOn_nil, List.mem_singleton] at h
    rw [h]
    exact List.not_mem_nil
  | cons c key ih =>
    rw [List.splitOn_cons_eq_if_modifyHead] at h
    split at h
    · rcases List.mem_cons.mp h with rfl | h
      · exact List.not_mem_nil
      · exact ih h
    · next hc =>
      obtain ⟨first, rest, hsplit⟩ := List.exists_cons_of_ne_nil (List.splitOn_ne_nil '.' key)
      rw [hsplit] at h ih
      rcases List.mem_cons.mp h with rfl | h
      · have hfirst := ih List.mem_cons_self
        have hne : '.' ≠ c := fun heq => hc (beq_iff_eq.mpr heq.symm)
        exact List.not_mem_cons_of_ne_of_not_mem hne hfirst
      · exact ih (List.mem_cons_of_mem first h)

theorem segments_eq_iff {parts : List Text} :
    segments key = parts ↔
      parts ≠ [] ∧ (∀ part ∈ parts, '.' ∉ part) ∧ ['.'].intercalate parts = key := by
  constructor
  · rintro rfl
    exact ⟨List.splitOn_ne_nil '.' key, fun _ => dot_notMem_of_segments,
      List.intercalate_splitOn '.'⟩
  · rintro ⟨hne, hfree, rfl⟩
    exact List.splitOn_intercalate '.' hfree hne

theorem get?_of_stored (h : s.entries.lookup key = some v) : s.get? key = some v := by
  rw [get?, h]

theorem get?_of_not_stored (h : s.entries.lookup key = none) :
    s.get? key = (Value.table s.entries).descend? (segments key) := by
  rw [get?, h]

theorem get?_eq_some :
    s.get? key = some v ↔
      s.entries.lookup key = some v ∨
        s.entries.lookup key = none ∧ (Value.table s.entries).Leads (segments key) v := by
  cases h : s.entries.lookup key with
  | some stored => simp [get?_of_stored h]
  | none => simp [get?_of_not_stored h, Value.descend?_eq_some]

theorem get?_eq_none :
    s.get? key = none ↔
      s.entries.lookup key = none ∧ (Value.table s.entries).Stops (segments key) := by
  cases h : s.entries.lookup key with
  | some stored => simp [get?_of_stored h]
  | none => simp [get?_of_not_stored h, Value.descend?_eq_none]

theorem lookup_insert_other (hne : other ≠ key) :
    (s.insert key v).entries.lookup other = s.entries.lookup other := by
  rw [insert, Table.lookup_insert, if_neg hne]

theorem get?_insert_other (hne : other ≠ key)
    (h : s.entries.lookup other ≠ none ∨ (segments other).head? ≠ some key) :
    (s.insert key v).get? other = s.get? other := by
  have hlookup := lookup_insert_other (s := s) (v := v) hne
  cases hstored : s.entries.lookup other with
  | some w => rw [get?_of_stored hstored, get?_of_stored (hlookup.trans hstored)]
  | none =>
    have hhead := h.resolve_left fun hsome => hsome hstored
    obtain ⟨first, rest, hsegments⟩ := List.exists_cons_of_ne_nil (List.splitOn_ne_nil '.' other)
    change segments other = first :: rest at hsegments
    rw [hsegments, List.head?_cons, Ne, Option.some_inj] at hhead
    rw [get?_of_not_stored hstored, get?_of_not_stored (hlookup.trans hstored), hsegments]
    exact (Value.descend?_insert s.entries key first v rest).trans (if_neg hhead)

theorem get?_insert_below (hne : other ≠ key) (hnone : s.entries.lookup other = none)
    (hsegments : segments other = key :: rest) :
    (s.insert key v).get? other = v.descend? rest := by
  have hlookup := lookup_insert_other (s := s) (v := v) hne
  rw [get?_of_not_stored (hlookup.trans hnone), hsegments]
  exact (Value.descend?_insert s.entries key key v rest).trans (if_pos rfl)

/-- Looking up settings and storing them fit together. After storing any values in any settings,
what is stored under a key is the last value stored there, or what was there before. The segments of
a key are its parts between dots. A setting is what is stored under its key; without that it is what
the segments lead to through nested tables, and there is none just if the way stops. A value is
found under the key that it is stored under. Any other key finds what it found before if something
is stored under it or if its first segment is not the key of the value; else it finds what its other
segments lead to from the value. -/
theorem settings_lookup (start : Settings) (inserted : List (Text × Value)) :
    let s := start.insertAll inserted
    (∀ key, s.entries.lookup key =
        (inserted.reverse.lookup key).or (start.entries.lookup key)) ∧
      (∀ key parts, segments key = parts ↔
        parts ≠ [] ∧ (∀ part ∈ parts, '.' ∉ part) ∧ ['.'].intercalate parts = key) ∧
      (∀ key v, s.get? key = some v ↔
        s.entries.lookup key = some v ∨
          s.entries.lookup key = none ∧ (Value.table s.entries).Leads (segments key) v) ∧
      (∀ key, s.get? key = none ↔
        s.entries.lookup key = none ∧ (Value.table s.entries).Stops (segments key)) ∧
      ∀ key v,
        (s.insert key v).get? key = some v ∧
          ∀ other, other ≠ key →
            (s.entries.lookup other ≠ none ∨ (segments other).head? ≠ some key →
                (s.insert key v).get? other = s.get? other) ∧
              ∀ rest, s.entries.lookup other = none → segments other = key :: rest →
                ∀ w, (s.insert key v).get? other = some w ↔ v.Leads rest w := by
  intro s
  refine ⟨lookup_insertAll start inserted, fun _ _ => segments_eq_iff, fun _ _ => get?_eq_some,
    fun _ => get?_eq_none, ?_⟩
  intro key v
  refine ⟨get?_insert_self s key v, fun other hne => ⟨get?_insert_other hne, ?_⟩⟩
  intro rest hnone hsegments w
  rw [get?_insert_below hne hnone hsegments, Value.descend?_eq_some]

theorem settings_lookup_shadowed :
    let a := "a".toList
    let v : Value := .table [("b".toList, .text ['2']), ("c".toList, .text ['3'])]
    let s := insertAll ⟨[(a, .null)]⟩ [("a.b".toList, .text ['1'])]
    (s.insert a v).get? "a.b".toList = s.get? "a.b".toList ∧
      s.get? "a.b".toList = some (.text ['1']) ∧
        s.get? "a.c".toList = none ∧
          (s.insert a v).get? "a.c".toList = some (.text ['3']) := by
  intro a v s
  obtain ⟨-, -, hsome, hnone, hinsert⟩ :=
    settings_lookup ⟨[(a, .null)]⟩ [("a.b".toList, .text ['1'])]
  obtain ⟨-, hother⟩ := hinsert a v
  have hkept := (hother "a.b".toList (by decide)).1 (Or.inl (by decide))
  have hbelow := (hother "a.c".toList (by decide)).2 ["c".toList] rfl rfl (.text ['3'])
  refine ⟨hkept, (hsome _ _).mpr (Or.inl rfl), ?_, hbelow.mpr ?_⟩
  · refine (hnone _).mpr ⟨rfl, [a], "c".toList, [], .null, rfl, .enter rfl (.stay _), ?_⟩
    rintro _ ⟨⟩
  · exact .enter rfl (.stay _)

end Settings

end Interpolation
