import Interpolation.CommandLine.Flags
import Interpolation.Shell.Commands
import Mathlib.Data.List.Induction

/-!
# Commands of flags

Command flags are read one after the other, up to the first one that is wrong. A flag that is read
replaces what an earlier one gives for its id. The given values come before the lines of the command
table: a line is run only for an id that no flag gives a value to.
-/

namespace Interpolation

namespace CommandFlag

/-- A command flag is wrong if it has no `=`, or nothing in front of it. -/
def IsWrong (entry : Text) : Prop :=
  '=' ∉ entry ∨ entry.head? = some '='

/-- A command flag gives a value to an id: they stand behind and in front of its first `=`, and the
id is not empty. -/
structure Gives (entry id value : Text) : Prop where
  text : entry = id ++ '=' :: value
  notMem : '=' ∉ id
  ne_nil : id ≠ []

variable {entry id value : Text} {entries before after : List Text} {values : Table Value}
  {e : FlagError}

theorem commandOfFlag_of_gives (h : Gives entry id value) :
    commandOfFlag entry = .ok (id, value) := by
  rw [commandOfFlag, h.text, Text.cutFirst_append h.notMem]
  simp [h.ne_nil]

theorem commandOfFlag_of_wrong (h : IsWrong entry) :
    commandOfFlag entry = .error (.command entry) := by
  rw [commandOfFlag]
  cases hcut : Text.cutFirst '=' entry with
  | none => rfl
  | some cut =>
    obtain ⟨id, value⟩ := cut
    obtain ⟨rfl, hfree⟩ := Text.eq_of_cutFirst hcut
    rcases h with hnone | hhead
    · exact absurd (by simp) hnone
    · cases id with
      | nil => rfl
      | cons c id =>
        obtain rfl : c = '=' := by simpa using hhead
        exact absurd List.mem_cons_self hfree

theorem Gives.not_wrong (h : Gives entry id value) : ¬ IsWrong entry := by
  intro hwrong
  have heq := commandOfFlag_of_wrong hwrong
  rw [commandOfFlag_of_gives h] at heq
  cases heq

theorem Gives.unique {id' value' : Text} (h : Gives entry id value) (h' : Gives entry id' value') :
    id = id' ∧ value = value' := by
  have heq := commandOfFlag_of_gives h
  rw [commandOfFlag_of_gives h'] at heq
  cases heq
  exact ⟨rfl, rfl⟩

theorem wrong_or_gives (entry : Text) : IsWrong entry ∨ ∃ id value, Gives entry id value := by
  by_cases hmem : '=' ∈ entry
  · obtain ⟨id, value, rfl, hfree⟩ := List.eq_append_cons_of_mem hmem
    cases id with
    | nil => exact Or.inl (Or.inr rfl)
    | cons c id => exact Or.inr ⟨c :: id, value, rfl, hfree, List.cons_ne_nil c id⟩
  · exact Or.inl (Or.inl hmem)

theorem commandOfFlag_eq_ok {command : Text × Text} :
    commandOfFlag entry = .ok command ↔ Gives entry command.1 command.2 := by
  constructor
  · intro h
    rcases wrong_or_gives entry with hwrong | ⟨id, value, hgives⟩
    · rw [commandOfFlag_of_wrong hwrong] at h
      cases h
    · rw [commandOfFlag_of_gives hgives] at h
      cases h
      exact hgives
  · exact commandOfFlag_of_gives

theorem commandOfFlag_eq_error :
    commandOfFlag entry = .error e ↔ IsWrong entry ∧ e = .command entry := by
  constructor
  · intro h
    rcases wrong_or_gives entry with hwrong | ⟨id, value, hgives⟩
    · rw [commandOfFlag_of_wrong hwrong] at h
      cases h
      exact ⟨hwrong, rfl⟩
    · rw [commandOfFlag_of_gives hgives] at h
      cases h
  · rintro ⟨hwrong, rfl⟩
    exact commandOfFlag_of_wrong hwrong

theorem infix_message (entry : Text) : entry <:+: (FlagError.command entry).message :=
  ⟨"Invalid command '".toList, "', expected ID=VALUE".toList, rfl⟩

theorem commandsOfFlags_concat (entries : List Text) (entry : Text) :
    commandsOfFlags (entries ++ [entry]) =
      (commandsOfFlags entries).bind fun values =>
        (commandOfFlag entry).map fun command =>
          Table.insert command.1 (.text command.2) values := by
  unfold commandsOfFlags
  rw [List.mapM_append, List.mapM_cons, List.mapM_nil]
  cases entries.mapM commandOfFlag with
  | error e => rfl
  | ok commands =>
    cases commandOfFlag entry with
    | error e => rfl
    | ok command =>
      change Except.ok (Table.ofList _) = Except.ok (Table.insert _ _ (Table.ofList _))
      simp [Table.ofList, List.foldl_append]

theorem commandsOfFlags_concat_eq_ok :
    commandsOfFlags (entries ++ [entry]) = .ok values ↔
      ∃ earlier id value, commandsOfFlags entries = .ok earlier ∧ Gives entry id value ∧
        values = Table.insert id (.text value) earlier := by
  rw [commandsOfFlags_concat]
  constructor
  · intro h
    cases hentries : commandsOfFlags entries with
    | error e =>
      rw [hentries] at h
      cases h
    | ok earlier =>
      cases hentry : commandOfFlag entry with
      | error e =>
        rw [hentries, hentry] at h
        cases h
      | ok command =>
        rw [hentries, hentry] at h
        cases h
        exact ⟨earlier, command.1, command.2, rfl, commandOfFlag_eq_ok.mp hentry, rfl⟩
  · rintro ⟨earlier, id, value, hentries, hgives, rfl⟩
    rw [hentries, commandOfFlag_of_gives hgives]
    rfl

theorem commandsOfFlags_concat_eq_error :
    commandsOfFlags (entries ++ [entry]) = .error e ↔
      commandsOfFlags entries = .error e ∨
        (∃ earlier, commandsOfFlags entries = .ok earlier) ∧ IsWrong entry ∧
          e = .command entry := by
  rw [commandsOfFlags_concat]
  cases hentries : commandsOfFlags entries with
  | error e' => simp [Except.bind]
  | ok earlier =>
    rw [← commandOfFlag_eq_error]
    cases hentry : commandOfFlag entry <;> simp [Except.bind, Except.map]

theorem exists_commandsOfFlags_iff :
    (∃ values, commandsOfFlags entries = .ok values) ↔ ∀ entry ∈ entries, ¬ IsWrong entry := by
  induction entries using List.reverseRecOn with
  | nil => simpa using ⟨_, rfl⟩
  | append_singleton entries entry ih =>
    rw [List.forall_mem_append, List.forall_mem_singleton, ← ih]
    constructor
    · rintro ⟨values, hvalues⟩
      obtain ⟨earlier, id, value, hentries, hgives, -⟩ := commandsOfFlags_concat_eq_ok.mp hvalues
      exact ⟨⟨earlier, hentries⟩, hgives.not_wrong⟩
    · rintro ⟨⟨earlier, hentries⟩, hright⟩
      obtain ⟨id, value, hgives⟩ := (wrong_or_gives entry).resolve_left hright
      exact ⟨_, commandsOfFlags_concat_eq_ok.mpr ⟨earlier, id, value, hentries, hgives, rfl⟩⟩

theorem commandsOfFlags_append_error (h : commandsOfFlags entries = .error e)
    (after : List Text) : commandsOfFlags (entries ++ after) = .error e := by
  induction after using List.reverseRecOn with
  | nil => rwa [List.append_nil]
  | append_singleton after entry ih =>
    rw [← List.append_assoc]
    exact commandsOfFlags_concat_eq_error.mpr (Or.inl ih)

theorem commandsOfFlags_eq_error :
    commandsOfFlags entries = .error e ↔
      ∃ before entry after, entries = before ++ entry :: after ∧
        (∀ earlier ∈ before, ¬ IsWrong earlier) ∧ IsWrong entry ∧ e = .command entry := by
  constructor
  · intro h
    induction entries using List.reverseRecOn with
    | nil => cases h
    | append_singleton entries last ih =>
      rcases commandsOfFlags_concat_eq_error.mp h with hearlier | ⟨hread, hwrong, he⟩
      · obtain ⟨before, entry, after, rfl, hfirst⟩ := ih hearlier
        exact ⟨before, entry, after ++ [last], by simp, hfirst⟩
      · exact ⟨entries, last, [], rfl, exists_commandsOfFlags_iff.mp hread, hwrong, he⟩
  · rintro ⟨before, entry, after, rfl, hbefore, hwrong, rfl⟩
    have hread := exists_commandsOfFlags_iff.mpr hbefore
    have hentry := commandsOfFlags_concat_eq_error.mpr (Or.inr ⟨hread, hwrong, rfl⟩)
    rw [List.append_cons]
    exact commandsOfFlags_append_error hentry after

theorem lookup_concat_of_not_given (h : commandsOfFlags (entries ++ [entry]) = .ok values)
    (hother : ∀ value, ¬ Gives entry id value) :
    ∃ earlier, commandsOfFlags entries = .ok earlier ∧ values.lookup id = earlier.lookup id := by
  obtain ⟨earlier, given, value, hearlier, hgives, rfl⟩ := commandsOfFlags_concat_eq_ok.mp h
  have hne : id ≠ given := by
    rintro rfl
    exact hother value hgives
  exact ⟨earlier, hearlier, by rw [Table.lookup_insert, if_neg hne]⟩

theorem lookup_of_last (h : commandsOfFlags (before ++ entry :: after) = .ok values)
    (hgives : Gives entry id value) (hlast : ∀ later ∈ after, ∀ v, ¬ Gives later id v) :
    values.lookup id = some (.text value) := by
  induction after using List.reverseRecOn generalizing values with
  | nil =>
    obtain ⟨earlier, given, read, -, hread, rfl⟩ := commandsOfFlags_concat_eq_ok.mp h
    obtain ⟨rfl, rfl⟩ := hgives.unique hread
    rw [Table.lookup_insert, if_pos rfl]
  | append_singleton after last ih =>
    rw [List.forall_mem_append, List.forall_mem_singleton] at hlast
    rw [← List.cons_append, ← List.append_assoc] at h
    obtain ⟨earlier, hearlier, hsame⟩ := lookup_concat_of_not_given h hlast.2
    rw [hsame]
    exact ih hearlier hlast.1

theorem lookup_of_not_given (h : commandsOfFlags entries = .ok values)
    (hnone : ∀ entry ∈ entries, ∀ value, ¬ Gives entry id value) : values.lookup id = none := by
  induction entries using List.reverseRecOn generalizing values with
  | nil =>
    cases h
    rfl
  | append_singleton entries last ih =>
    rw [List.forall_mem_append, List.forall_mem_singleton] at hnone
    obtain ⟨earlier, hearlier, hsame⟩ := lookup_concat_of_not_given h hnone.2
    rw [hsame]
    exact ih hearlier hnone.1

end CommandFlag

namespace Executor

variable {σ : Type}

/-- A call is replied to at once: no time passes, nothing is told, the state stays. -/
structure RepliesAtOnce (ex : Executor σ) (id : Text) (reply : Reply) : Prop where
  call : ∀ s, ex.call s id = (reply, s)
  delay : ∀ s, ex.delay s id = 0
  notices : ex.notices id = []

/-- A call is left to another executor. -/
structure LeavesTo (ex next : Executor σ) (id : Text) : Prop where
  call : ∀ s, ex.call s id = next.call s id
  delay : ∀ s, ex.delay s id = next.delay s id
  notices : ex.notices id = next.notices id

/-- A call runs a line and waits for it. If the line succeeds, the answer is what it prints without
the blanks around it. Otherwise the call fails with what is said of the line's end. -/
structure RunsLine (ex : Executor σ) (run : Lines σ) (id line : Text) : Prop where
  call : ∀ s, ex.call s id = (Shell.replyOf id (run line s).1, (run line s).2)
  notices : ex.notices id = [.runningLine id line]
  delay : ∀ s finished, (run line s).1 = .ok finished → ex.delay s id = finished.elapsed
  succeeded : ∀ s finished, (run line s).1 = .ok finished → finished.ending = .exit 0 →
    (ex.call s id).1 = .ok (some (.text (Text.trim (Shell.Octets.toText finished.output))))
  failed : ∀ s finished, (run line s).1 = .ok finished → finished.ending ≠ .exit 0 →
    (ex.call s id).1 = .error (.failed id (Text.trimEnd (finished.ending.toText ++
      ' ' :: Text.trim (Shell.Octets.toText finished.errors))))
  unstarted : ∀ s why, (run line s).1 = .error why →
    (ex.call s id).1 = .error (.failed id why) ∧ ex.delay s id = 0

variable {values : Table Value} {ex next : Executor σ} {run : Lines σ} {table : CommandTable}
  {id line : Text} {v : Value} {reply : Reply}

theorem preferring_repliesAtOnce (h : values.lookup id = some v) :
    (preferring values next).RepliesAtOnce id (.ok (some v)) where
  call s := by simp [preferring, h]
  delay s := by simp [preferring, h]
  notices := by simp [preferring, h]

theorem preferring_leavesTo (h : values.lookup id = Option.none) :
    (preferring values next).LeavesTo next id where
  call s := by simp [preferring, h]
  delay s := by simp [preferring, h]
  notices := by simp [preferring, h]

theorem replyOf_succeeded {finished : Shell.Finished} (h : finished.ending = .exit 0) :
    Shell.replyOf id (.ok finished) =
      .ok (some (.text (Text.trim (Shell.Octets.toText finished.output)))) := by
  simp only [Shell.replyOf, Shell.Finished.reply, h]

theorem replyOf_failed {finished : Shell.Finished} (h : finished.ending ≠ .exit 0) :
    Shell.replyOf id (.ok finished) =
      .error (.failed id (Text.trimEnd (finished.ending.toText ++
        ' ' :: Text.trim (Shell.Octets.toText finished.errors)))) := by
  rw [Shell.replyOf, Shell.Finished.reply]
  split
  · exact absurd ‹_› h
  · rfl

theorem lines_runsLine (h : table.lines.lookup id = some line) :
    (lines run table).RunsLine run id line := by
  have hcall : ∀ s, (lines run table).call s id =
      (Shell.replyOf id (run line s).1, (run line s).2) := by
    intro s
    simp [lines, h]
  refine ⟨hcall, by simp [lines, h], ?_, ?_, ?_, ?_⟩
  · intro s finished hrun
    simp [lines, h, hrun]
  · intro s finished hrun hending
    rw [hcall, hrun, replyOf_succeeded hending]
  · intro s finished hrun hending
    rw [hcall, hrun, replyOf_failed hending]
  · intro s why hrun
    refine ⟨?_, by simp [lines, h, hrun]⟩
    rw [hcall, hrun]
    rfl

theorem lines_repliesAtOnce (h : table.lines.lookup id = Option.none) :
    (lines run table).RepliesAtOnce id (.error (.notFound id)) where
  call s := by simp [lines, h]
  delay s := by simp [lines, h]
  notices := by simp [lines, h]

theorem LeavesTo.runsLine (h : ex.LeavesTo next id) (hnext : next.RunsLine run id line) :
    ex.RunsLine run id line where
  call s := by rw [h.call, hnext.call]
  notices := by rw [h.notices, hnext.notices]
  delay s := by rw [h.delay]; exact hnext.delay s
  succeeded s := by rw [h.call]; exact hnext.succeeded s
  failed s := by rw [h.call]; exact hnext.failed s
  unstarted s := by rw [h.call, h.delay]; exact hnext.unstarted s

theorem LeavesTo.repliesAtOnce (h : ex.LeavesTo next id) (hnext : next.RepliesAtOnce id reply) :
    ex.RepliesAtOnce id reply where
  call s := by rw [h.call, hnext.call]
  delay s := by rw [h.delay, hnext.delay]
  notices := by rw [h.notices, hnext.notices]

end Executor

open CommandFlag in
/-- The commands of flags. Reading them fails just if one of them has no `=` or begins with it, and
then the error names the first of these. Otherwise the last flag that has an id in front of its
first `=` answers the command of this id with what stands behind that `=`, whatever the table has
for it: no line is run, so what lines act on stays as it was, and no line is told of. A command that
no flag has in front of its first `=` is left to the table: its line is run, and it is not found if
the table lacks it. -/
theorem fixed_commands (entries : List Text) :
    ((∃ e, commandsOfFlags entries = .error e) ↔ ∃ entry ∈ entries, IsWrong entry) ∧
      (∀ e, commandsOfFlags entries = .error e ↔
        ∃ before entry after, entries = before ++ entry :: after ∧
          (∀ earlier ∈ before, ¬ IsWrong earlier) ∧ IsWrong entry ∧
            e = .command entry ∧ entry <:+: e.message) ∧
      ((∀ entry ∈ entries, ¬ IsWrong entry) →
        ∃ values, commandsOfFlags entries = .ok values ∧
          ∀ (σ : Type) (run : Executor.Lines σ) (table : CommandTable) (id : Text),
            let commands := Executor.preferring values (.lines run table)
            (∀ before entry after value, entries = before ++ entry :: after →
              Gives entry id value → (∀ later ∈ after, ∀ v, ¬ Gives later id v) →
                commands.RepliesAtOnce id (.ok (some (.text value)))) ∧
              ((∀ entry ∈ entries, ∀ value, ¬ Gives entry id value) →
                commands.LeavesTo (.lines run table) id ∧
                  (∀ line, table.lines.lookup id = some line → commands.RunsLine run id line) ∧
                    (table.lines.lookup id = none →
                      commands.RepliesAtOnce id (.error (.notFound id))))) := by
  refine ⟨?_, ?_, fun hright => ?_⟩
  · constructor
    · rintro ⟨e, he⟩
      obtain ⟨before, entry, after, rfl, -, hwrong, -⟩ := commandsOfFlags_eq_error.mp he
      exact ⟨entry, by simp, hwrong⟩
    · rintro ⟨entry, hentry, hwrong⟩
      cases hread : commandsOfFlags entries with
      | error e => exact ⟨e, rfl⟩
      | ok values =>
        exact absurd hwrong (exists_commandsOfFlags_iff.mp ⟨values, hread⟩ entry hentry)
  · intro e
    rw [commandsOfFlags_eq_error]
    constructor
    · rintro ⟨before, entry, after, hsplit, hfirst, hwrong, rfl⟩
      exact ⟨before, entry, after, hsplit, hfirst, hwrong, rfl, infix_message entry⟩
    · rintro ⟨before, entry, after, hsplit, hfirst, hwrong, he, -⟩
      exact ⟨before, entry, after, hsplit, hfirst, hwrong, he⟩
  · obtain ⟨values, hread⟩ := exists_commandsOfFlags_iff.mpr hright
    refine ⟨values, hread, fun σ run table id => ⟨?_, fun hnone => ?_⟩⟩
    · rintro before entry after value rfl hgives hlast
      exact Executor.preferring_repliesAtOnce (lookup_of_last hread hgives hlast)
    · have hleaves : (Executor.preferring values (.lines run table)).LeavesTo _ id :=
        Executor.preferring_leavesTo (lookup_of_not_given hread hnone)
      refine ⟨hleaves, fun line hline => ?_, fun hlack => ?_⟩
      · exact hleaves.runsLine (Executor.lines_runsLine hline)
      · exact hleaves.repliesAtOnce (Executor.lines_repliesAtOnce hlack)

def printing : Executor.Lines Nat := fun line runs =>
  (.ok ⟨.exit 0, Shell.Octets.ofText line ++ ['\n'], [], 1⟩, runs + 1)

def printingTable : CommandTable :=
  ⟨[("a".toList, "pwd".toList), ("c".toList, "date".toList)]⟩

open CommandFlag in
theorem fixed_commands_repeated :
    let entries := ["a=1".toList, "b=".toList, "a==2".toList]
    ∃ values, commandsOfFlags entries = .ok values ∧
      let commands := Executor.preferring values (.lines printing printingTable)
      commands.RepliesAtOnce "a".toList (.ok (some (.text "=2".toList))) ∧
        commands.RepliesAtOnce "b".toList (.ok (some (.text []))) ∧
          (∀ runs, commands.call runs "c".toList = (.ok (some (.text "date".toList)), runs + 1)) ∧
            commands.notices "c".toList = [.runningLine "c".toList "date".toList] ∧
              commands.RepliesAtOnce "d".toList (.error (.notFound "d".toList)) := by
  intro entries
  have hfirst : Gives "a=1".toList "a".toList "1".toList := ⟨rfl, by decide, by decide⟩
  have hempty : Gives "b=".toList "b".toList [] := ⟨rfl, by decide, by decide⟩
  have hlast : Gives "a==2".toList "a".toList "=2".toList := ⟨rfl, by decide, by decide⟩
  have hright : ∀ entry ∈ entries, ¬ IsWrong entry := by
    simp only [entries, List.forall_mem_cons]
    exact ⟨hfirst.not_wrong, hempty.not_wrong, hlast.not_wrong, List.forall_mem_nil _⟩
  have hother {id : Text} (ha : id ≠ "a".toList) (hb : id ≠ "b".toList) :
      ∀ entry ∈ entries, ∀ value, ¬ Gives entry id value := by
    simp only [entries, List.forall_mem_cons]
    refine ⟨fun v h => ?_, fun v h => ?_, fun v h => ?_, List.forall_mem_nil _⟩
    · exact ha (h.unique hfirst).1
    · exact hb (h.unique hempty).1
    · exact ha (h.unique hlast).1
  obtain ⟨values, hread, hcommands⟩ := (fixed_commands entries).2.2 hright
  replace hcommands := hcommands Nat printing printingTable
  have hline := ((hcommands "c".toList).2 (hother (by decide) (by decide))).2.1 "date".toList rfl
  have hunknown := ((hcommands "d".toList).2 (hother (by decide) (by decide))).2.2 rfl
  refine ⟨values, hread, ?_, ?_, fun runs => ?_, hline.notices, hunknown⟩
  · exact (hcommands "a".toList).1 ["a=1".toList, "b=".toList] "a==2".toList [] _ rfl hlast
      (List.forall_mem_nil _)
  · refine (hcommands "b".toList).1 ["a=1".toList] "b=".toList ["a==2".toList] _ rfl hempty
      (List.forall_mem_singleton.mpr fun v h => ?_)
    exact absurd (h.unique hlast).1 (by decide)
  · have hprinted : Text.trim (Shell.Octets.toText (Shell.Octets.ofText "date".toList ++ ['\n'])) =
        "date".toList := by
      decide +kernel
    have hreply := hline.succeeded runs _ rfl rfl
    rw [hprinted] at hreply
    exact Prod.ext hreply (by rw [hline.call]; rfl)

end Interpolation
