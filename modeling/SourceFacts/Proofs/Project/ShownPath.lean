import SourceFacts.Proofs.Project.Accounting

/-!
# Paths that are shown alike

A path is shown from a base on if it lies below the base, and as it is if it does not. So two paths are
shown alike exactly if one of them is what the other one is from the base on, and does not lie below the
base itself. Of the paths that are shown alike only the one that is listed last is read.
-/

namespace SourceFacts

/-! ## Texts in parts -/

namespace Text

variable {sep : Char}

theorem splitChars_ne_nil (sep : Char) (cs : List Char) : splitChars sep cs ≠ [] := by
  cases cs with
  | nil => simp [splitChars]
  | cons c cs =>
      rw [splitChars]
      split
      · simp
      · split <;> simp

theorem splitChars_cons_sep (sep : Char) (cs : List Char) :
    splitChars sep (sep :: cs) = [] :: splitChars sep cs := by
  rw [splitChars]
  cases h : splitChars sep cs with
  | nil => exact absurd h (splitChars_ne_nil sep cs)
  | cons part parts => simp

/-- A character that is no separator belongs to the first part. -/
theorem splitChars_cons {c : Char} (hc : c ≠ sep) {cs part : List Char} {parts : List (List Char)}
    (h : splitChars sep cs = part :: parts) : splitChars sep (c :: cs) = (c :: part) :: parts := by
  simp [splitChars, h, hc]

theorem splitChars_append {start part : List Char} {parts : List (List Char)} {cs : List Char}
    (hstart : sep ∉ start) (h : splitChars sep cs = part :: parts) :
    splitChars sep (start ++ cs) = (start ++ part) :: parts := by
  induction start with
  | nil => exact h
  | cons c start ih =>
      rw [List.mem_cons, not_or] at hstart
      exact splitChars_cons (Ne.symm hstart.1) (ih hstart.2)

theorem notMem_of_mem_splitChars {cs part : List Char} (h : part ∈ splitChars sep cs) :
    sep ∉ part := by
  induction cs generalizing part with
  | nil =>
      rw [List.mem_singleton.mp h]
      exact List.not_mem_nil
  | cons c cs ih =>
      by_cases hc : c = sep
      · subst hc
        rw [splitChars_cons_sep] at h
        rcases List.mem_cons.mp h with rfl | h
        · exact List.not_mem_nil
        · exact ih h
      · obtain ⟨first, rest, hsplit⟩ := List.exists_cons_of_ne_nil (splitChars_ne_nil sep cs)
        rw [splitChars_cons hc hsplit] at h
        rcases List.mem_cons.mp h with rfl | h
        · rw [List.mem_cons, not_or]
          exact ⟨Ne.symm hc, ih (hsplit ▸ List.mem_cons_self)⟩
        · exact ih (hsplit ▸ List.mem_cons_of_mem first h)

/-- Parts without separators are found again in the text that joins them. -/
theorem splitChars_joinWith {between : String} (hbetween : between.toList = [sep])
    {parts : List String} (hne : parts ≠ []) (hparts : ∀ part ∈ parts, sep ∉ part.toList) :
    splitChars sep (joinWith between parts).toList = parts.map String.toList := by
  induction parts with
  | nil => exact absurd rfl hne
  | cons part rest ih =>
      obtain ⟨hpart, hrest⟩ := List.forall_mem_cons.mp hparts
      cases rest with
      | nil => simpa [joinWith] using splitChars_append hpart (show splitChars sep [] = [] :: [] from rfl)
      | cons next rest =>
          have hsplit := splitChars_cons_sep sep (joinWith between (next :: rest)).toList
          rw [ih (List.cons_ne_nil next rest) hrest] at hsplit
          simpa [joinWith, hbetween] using splitChars_append hpart hsplit

end Text

/-! ## Normal paths -/

namespace Path

/-- The parts of the path are such as are read from a text. -/
structure IsNormal (p : Path) : Prop where
  named : ∀ part ∈ p.parts, part ≠ "" ∧ part ≠ "."
  undivided : ∀ part ∈ p.parts, '/' ∉ part.toList

theorem parse_isNormal (s : String) : (parse s).IsNormal where
  named := by
    intro part hpart
    simpa using (List.mem_filter.mp hpart).2
  undivided := by
    intro part hpart
    obtain ⟨cs, hcs, rfl⟩ := List.mem_map.mp (List.mem_filter.mp hpart).1
    rw [String.toList_ofList]
    exact Text.notMem_of_mem_splitChars hcs

/-- With how many slashes a root is written. -/
def slashes : PathRoot → Nat
  | .relative => 0
  | .slash => 1
  | .doubleSlash => 2

theorem toList_rootText (root : PathRoot) : root.text.toList = List.replicate (slashes root) '/' := by
  cases root <;> rfl

theorem splitChars_replicate (k : Nat) (cs : List Char) :
    Text.splitChars '/' (List.replicate k '/' ++ cs) =
      List.replicate k [] ++ Text.splitChars '/' cs := by
  induction k with
  | zero => rfl
  | succ k ih =>
      rw [List.replicate_succ, List.replicate_succ, List.cons_append, Text.splitChars_cons_sep, ih]
      rfl

theorem rootOf_replicate (root : PathRoot) {cs : List Char} (hcs : cs.head? ≠ some '/') :
    rootOf (List.replicate (slashes root) '/' ++ cs) = root := by
  have hrest : cs.takeWhile (· == '/') = [] := by
    cases cs with
    | nil => rfl
    | cons c cs =>
        refine List.takeWhile_cons_of_neg ?_
        simpa using hcs
  have hslashes : (List.replicate (slashes root) '/' ++ cs).takeWhile (· == '/') =
      List.replicate (slashes root) '/' := by
    rw [List.takeWhile_append_of_pos (by simp), hrest, List.append_nil]
  rw [rootOf, hslashes, List.length_replicate]
  cases root <;> rfl

/-- A path is read back from its text. -/
theorem parse_text {p : Path} (h : p.IsNormal) : parse p.text = p := by
  obtain ⟨root, parts⟩ := p
  by_cases hempty : root = .relative ∧ parts = []
  · obtain ⟨rfl, rfl⟩ := hempty
    rfl
  · have hkeep : parts.filter (fun part => part != "" && part != ".") = parts :=
      List.filter_eq_self.mpr fun part hpart => by simpa using h.named part hpart
    have htext : (text ⟨root, parts⟩).toList =
        List.replicate (slashes root) '/' ++ (Text.joinWith "/" parts).toList := by
      rw [text, if_neg hempty, String.toList_append, toList_rootText]
    unfold parse Text.split
    rw [htext, splitChars_replicate]
    cases parts with
    | nil => cases root <;> rfl
    | cons part rest =>
        have hsplit : Text.splitChars '/' (Text.joinWith "/" (part :: rest)).toList =
            (part :: rest).map String.toList :=
          Text.splitChars_joinWith rfl (List.cons_ne_nil part rest) h.undivided
        have hhead : (Text.joinWith "/" (part :: rest)).toList.head? ≠ some '/' := by
          intro hslash
          obtain ⟨cs, hcs⟩ := List.head?_eq_some_iff.mp hslash
          rw [hcs, Text.splitChars_cons_sep, List.map_cons, List.cons.injEq] at hsplit
          exact (h.named part List.mem_cons_self).1 (String.toList_eq_nil_iff.mp hsplit.1.symm)
        rw [rootOf_replicate root hhead, hsplit, List.map_append, List.map_map, List.filter_append]
        simp [Function.comp_def, hkeep]

/-- Normal paths are told apart by their texts. -/
theorem text_inj {p q : Path} (hp : p.IsNormal) (hq : q.IsNormal) : p.text = q.text ↔ p = q := by
  refine ⟨fun h => ?_, fun h => h ▸ rfl⟩
  rw [← parse_text hp, ← parse_text hq, h]

/-! ## What is shown -/

/-- The path goes on from the base. -/
def IsBelow (p base : Path) : Prop :=
  ∃ rest : Path, rest.root = .relative ∧ p = base.join rest

/-- From the base on the first path is the second one, which does not lie below the base itself. -/
structure Doubles (base p q : Path) : Prop where
  relative : q.root = .relative
  join_eq : p = base.join q
  not_below : ¬ q.IsBelow base

variable {base p q : Path}

theorem relativeTo?_eq_some_iff :
    p.relativeTo? base = some q ↔ q.root = .relative ∧ p = base.join q := by
  unfold relativeTo?
  constructor
  · intro h
    split at h
    · rename_i hbelow
      cases h
      obtain ⟨rest, hrest⟩ := List.isPrefixOf_iff_prefix.mp hbelow.2
      refine ⟨rfl, ?_⟩
      rw [join, ← hrest, List.drop_left, hrest, ← hbelow.1]
    · cases h
  · rintro ⟨hroot, rfl⟩
    obtain ⟨root, parts⟩ := q
    obtain rfl : root = .relative := hroot
    have hbelow : base.parts.isPrefixOf (base.parts ++ parts) = true :=
      List.isPrefixOf_iff_prefix.mpr (List.prefix_append _ _)
    simp [join, hbelow]

theorem relativeTo?_eq_none_iff : p.relativeTo? base = none ↔ ¬ p.IsBelow base := by
  rw [Option.eq_none_iff_forall_ne_some, IsBelow, not_exists]
  exact forall_congr' fun q => not_congr relativeTo?_eq_some_iff

theorem IsNormal.relativeTo? (hp : p.IsNormal) (h : p.relativeTo? base = some q) : q.IsNormal := by
  obtain ⟨hroot, rfl⟩ := relativeTo?_eq_some_iff.mp h
  obtain ⟨root, parts⟩ := q
  obtain rfl : root = .relative := hroot
  exact ⟨fun part hpart => hp.named part (List.mem_append_right _ hpart),
    fun part hpart => hp.undivided part (List.mem_append_right _ hpart)⟩

/-- Seen from the base, one of the paths doubles the other one. -/
def Clashes (base : Option Path) (p q : Path) : Prop :=
  ∃ b, base = some b ∧ (Doubles b p q ∨ Doubles b q p)

theorem Clashes.ne {base : Option Path} (h : Clashes base p q) : p ≠ q := by
  rintro rfl
  obtain ⟨b, -, h⟩ := h
  have h := h.elim id id
  exact h.not_below ⟨p, h.relative, h.join_eq⟩

/-- What is shown of a path that lies below the base, and of one that does not. -/
theorem shownFrom_cases (p base : Path) :
    (∃ q, p.relativeTo? base = some q ∧ p.shownFrom (some base) = q.text) ∨
      (p.relativeTo? base = none ∧ p.shownFrom (some base) = p.text) := by
  unfold shownFrom
  rw [Option.bind_some]
  cases h : p.relativeTo? base with
  | none => exact Or.inr ⟨rfl, rfl⟩
  | some q => exact Or.inl ⟨q, rfl, rfl⟩

/-- Two paths are shown alike exactly if they clash. -/
theorem shownFrom_eq_iff {base : Option Path} (hp : p.IsNormal) (hq : q.IsNormal) (hne : p ≠ q) :
    p.shownFrom base = q.shownFrom base ↔ Clashes base p q := by
  unfold Clashes
  cases base with
  | none =>
      have htext : p.shownFrom none = q.shownFrom none ↔ p = q := text_inj hp hq
      simp [htext, hne]
  | some b =>
      have hdoubles : ∀ {p q : Path}, Doubles b p q ↔
          p.relativeTo? b = some q ∧ q.relativeTo? b = none := by
        intro p q
        rw [relativeTo?_eq_some_iff, relativeTo?_eq_none_iff]
        exact ⟨fun h => ⟨⟨h.relative, h.join_eq⟩, h.not_below⟩, fun h => ⟨h.1.1, h.1.2, h.2⟩⟩
      simp only [Option.some.injEq, exists_eq_left', hdoubles]
      rcases shownFrom_cases p b with ⟨p', hp', hshown⟩ | ⟨hp', hshown⟩ <;>
        rcases shownFrom_cases q b with ⟨q', hq', hshown'⟩ | ⟨hq', hshown'⟩
      · have hrest : p' ≠ q' := fun heq => hne <| by
          rw [(relativeTo?_eq_some_iff.mp hp').2, (relativeTo?_eq_some_iff.mp hq').2, heq]
        rw [hshown, hshown', text_inj (hp.relativeTo? hp') (hq.relativeTo? hq'), hp', hq']
        simp [hrest]
      · rw [hshown, hshown', text_inj (hp.relativeTo? hp') hq, hp', hq']
        simp
      · rw [hshown, hshown', text_inj hp (hq.relativeTo? hq'), hp', hq']
        simp [eq_comm]
      · rw [hshown, hshown', text_inj hp hq, hp', hq']
        simp [hne]

end Path

/-! ## Files that are read -/

section Read

variable {paths : List Path} {base : Option Path}

/-- Of the paths that are shown under one name the last one is read. -/
theorem mem_values_jobsFor {path : Path} :
    path ∈ (jobsFor paths base).values ↔ ∃ before after, paths = before ++ path :: after ∧
      ∀ later ∈ after, later.shownFrom base ≠ path.shownFrom base := by
  unfold Dictionary.values jobsFor
  rw [List.mem_map]
  constructor
  · rintro ⟨e, he, rfl⟩
    obtain ⟨before, after, hpaths, hafter⟩ := Dictionary.mem_entries_ofList_iff.mp he
    obtain ⟨before, rest, rfl, rfl, hrest⟩ := List.map_eq_append_iff.mp hpaths
    obtain ⟨path, after, rfl, rfl, rfl⟩ := List.map_eq_cons_iff.mp hrest
    exact ⟨before, after, rfl, fun later hlater => hafter _ (List.mem_map_of_mem hlater)⟩
  · rintro ⟨before, after, rfl, hafter⟩
    refine ⟨(path.shownFrom base, path), Dictionary.mem_entries_ofList_iff.mpr
      ⟨before.map fun p => (p.shownFrom base, p), after.map fun p => (p.shownFrom base, p), ?_, ?_⟩, rfl⟩
    · rw [List.map_append, List.map_cons]
    · exact List.forall_mem_map.mpr hafter

theorem entries_jobsFor (paths : List Path) (base : Option Path) :
    (jobsFor paths base).entries =
      (jobsFor paths base).values.map fun path => (path.shownFrom base, path) := by
  rw [Dictionary.values, List.map_map]
  refine (List.map_id _).symm.trans (List.map_congr_left fun e he => ?_)
  obtain ⟨path, _, rfl⟩ := List.mem_map.mp (Dictionary.mem_of_mem_ofList he)
  rfl

/-- The names under which files are read are different, so the files are. -/
theorem nodup_values_jobsFor (paths : List Path) (base : Option Path) :
    (jobsFor paths base).values.Nodup := by
  have hkeys := Dictionary.nodup_keys_ofList (paths.map fun p => (p.shownFrom base, p))
  change ((jobsFor paths base).entries.map (·.1)).Nodup at hkeys
  rw [entries_jobsFor, List.map_map] at hkeys
  exact hkeys.of_map _

/-- Every name has a file that is read. -/
theorem exists_mem_values_jobsFor {path : Path} (h : path ∈ paths) :
    ∃ q ∈ (jobsFor paths base).values, q.shownFrom base = path.shownFrom base := by
  have hmem : (path.shownFrom base, path) ∈ (paths.map fun p => (p.shownFrom base, p)).filter
      fun e => decide (e.1 = path.shownFrom base) :=
    List.mem_filter.mpr ⟨List.mem_map_of_mem h, decide_eq_true rfl⟩
  have hget : (jobsFor paths base).get? (path.shownFrom base) ≠ none := by
    rw [jobsFor, Dictionary.get?_ofList, ne_eq, Option.map_eq_none_iff, List.getLast?_eq_none_iff]
    exact List.ne_nil_of_mem hmem
  obtain ⟨q, hq⟩ := Option.ne_none_iff_exists'.mp hget
  have hentry := Dictionary.mem_entries_of_get? hq
  rw [entries_jobsFor, List.mem_map] at hentry
  obtain ⟨q, hvalue, heq⟩ := hentry
  exact ⟨q, hvalue, congrArg Prod.fst heq⟩

/-- What the analysis of a listed file ends with. -/
def Project.outcomeOf? (p : Project) (base : Option Path) (path : Path) : Option FileOutcome :=
  (p.attempt (path.shownFrom base) path).outcome? (path.shownFrom base)

theorem Project.attempt_ne_interrupted {p : Project}
    (hoverride : ∀ shown, p.override shown ≠ some .interrupted) (shown : String) (path : Path) :
    p.attempt shown path ≠ .interrupted := by
  unfold Project.attempt
  intro h
  split at h
  · rename_i a ha
    exact hoverride shown (h ▸ ha)
  · split at h <;> cases h

theorem Project.exists_outcomeOf {p : Project}
    (hoverride : ∀ shown, p.override shown ≠ some .interrupted) (base : Option Path) (path : Path) :
    ∃ o, p.outcomeOf? base path = some o := by
  unfold Project.outcomeOf?
  cases h : p.attempt (path.shownFrom base) path with
  | finished o => exact ⟨o, rfl⟩
  | failed message => exact ⟨_, rfl⟩
  | interrupted => exact absurd h (p.attempt_ne_interrupted hoverride _ _)

/-- A run that nothing disturbs reports on the files that are read. -/
theorem Project.runPaths_eq_ok {p : Project}
    (hworkers : checkWorkers p.workers p.config.maxWorkers p.misfits.maxWorkers = .ok ())
    (hcancelled : p.cancelled = false) (hoverride : ∀ shown, p.override shown ≠ some .interrupted)
    (paths : List Path) (base : Option Path) :
    p.runPaths paths base = .ok
      (Report.ofFiles ((jobsFor paths base).values.filterMap (p.outcomeOf? base)) [] false) := by
  have hattempt : ∀ job ∈ (jobsFor paths base).entries, p.attempt job.1 job.2 ≠ .interrupted :=
    fun job _ => p.attempt_ne_interrupted hoverride job.1 job.2
  have hrun := Run.ofJobs_eq hattempt
  rw [entries_jobsFor, List.filterMap_map] at hrun
  unfold runPaths
  rw [hworkers, hcancelled, entries_jobsFor, hrun]
  rfl

end Read

/-- Which files a run reads. Two different paths of a list are shown alike exactly if they clash: one of
them is the base with the other one after it, and the other one does not lie below the base. A run that
is neither cancelled nor interrupted gives the report on the outcomes of the files that are read, one
each, and skips nothing. A file is read exactly if no path that clashes with it is listed after it; so
if no two of the paths clash, all files are. -/
theorem listed_read_unless_doubled {p : Project} {paths : List Path} {base : Option Path}
    (hpaths : ∀ path ∈ paths, path.IsNormal)
    (hworkers : checkWorkers p.workers p.config.maxWorkers p.misfits.maxWorkers = .ok ())
    (hcancelled : p.cancelled = false)
    (hoverride : ∀ shown, p.override shown ≠ some .interrupted) :
    (∀ path ∈ paths, ∀ other ∈ paths, path ≠ other →
      (path.shownFrom base = other.shownFrom base ↔ Path.Clashes base path other)) ∧
    ∃ (read : List Path) (outcome : Path → FileOutcome),
      p.runPaths paths base = .ok (Report.ofFiles (read.map outcome) [] false) ∧
      (∀ path, p.outcomeOf? base path = some (outcome path)) ∧
      read.Nodup ∧
      (∀ path, path ∈ read ↔ ∃ before after, paths = before ++ path :: after ∧
        ∀ later ∈ after, later ≠ path ∧ ¬ Path.Clashes base later path) ∧
      ((∀ path ∈ paths, ∀ other ∈ paths, ¬ Path.Clashes base path other) →
        ∀ path ∈ paths, path ∈ read) := by
  have halike : ∀ path ∈ paths, ∀ other ∈ paths, path ≠ other →
      (path.shownFrom base = other.shownFrom base ↔ Path.Clashes base path other) :=
    fun path hpath other hother => Path.shownFrom_eq_iff (hpaths path hpath) (hpaths other hother)
  choose outcome houtcome using p.exists_outcomeOf hoverride base
  refine ⟨halike, (jobsFor paths base).values, outcome, ?_, houtcome, nodup_values_jobsFor paths base,
    fun path => ?_, fun hclash path hpath => ?_⟩
  · have hsome : p.outcomeOf? base = some ∘ outcome := funext houtcome
    rw [p.runPaths_eq_ok hworkers hcancelled hoverride, hsome, List.filterMap_eq_map]
  · rw [mem_values_jobsFor]
    refine exists_congr fun before => exists_congr fun after => and_congr_right fun hlist => ?_
    refine forall_congr' fun later => forall_congr' fun hlater => ?_
    by_cases heq : later = path
    · simp [heq]
    · rw [ne_eq, halike later (by simp [hlist, hlater]) path (by simp [hlist]) heq]
      simp [heq]
  · obtain ⟨q, hq, hshown⟩ := @exists_mem_values_jobsFor paths base path hpath
    obtain ⟨before, after, hlist, -⟩ := mem_values_jobsFor.mp hq
    have hlisted : q ∈ paths := by simp [hlist]
    by_cases heq : q = path
    · exact heq ▸ hq
    · exact absurd ((halike q hlisted path hpath heq).mp hshown) (hclash q hlisted path hpath)

/-- Below the base `r` the file `r/a.py` is shown as `a.py` is. -/
theorem listed_path_replaced :
    let inside := Path.parse "r/a.py"
    let outside := Path.parse "a.py"
    let base := some (Path.parse "r")
    inside ≠ outside ∧ inside.shownFrom base = outside.shownFrom base ∧
      (({ disk := {} } : Project).runPaths [inside, outside] base).toOption.map
          (fun r => (r.files.length, r.diagnostics.map (·.message), r.skipped)) =
        some (0, ["Error reading a.py: [Errno 2] No such file or directory: 'a.py'"], []) := by
  decide +kernel

theorem listed_read_unless_doubled_missing :
    let p : Project := { disk := {} }
    let paths := [Path.parse "r/a.py", Path.parse "b.py"]
    let base := some (Path.parse "r")
    (∀ path ∈ paths, path.IsNormal) ∧
      checkWorkers p.workers p.config.maxWorkers p.misfits.maxWorkers = .ok () ∧
      (∀ path ∈ paths, ∀ other ∈ paths, ¬ Path.Clashes base path other) ∧
      ∃ (read : List Path) (outcome : Path → FileOutcome),
        p.runPaths paths base = .ok (Report.ofFiles (read.map outcome) [] false) ∧
        (∀ path, p.outcomeOf? base path = some (outcome path)) ∧
        ∀ path ∈ paths, path ∈ read := by
  intro p paths base
  have hpaths : ∀ path ∈ paths, path.IsNormal := by
    simp [paths, Path.parse_isNormal]
  have hapart : ∀ path ∈ paths, ∀ other ∈ paths, path ≠ other →
      path.shownFrom base ≠ other.shownFrom base := by
    decide +kernel
  have hclash : ∀ path ∈ paths, ∀ other ∈ paths, ¬ Path.Clashes base path other := by
    intro path hpath other hother h
    have hshown := (Path.shownFrom_eq_iff (hpaths path hpath) (hpaths other hother) h.ne).mpr h
    exact hapart path hpath other hother h.ne hshown
  obtain ⟨-, read, outcome, hrun, houtcome, -, -, hread⟩ :=
    @listed_read_unless_doubled p paths base hpaths rfl rfl (by rintro _ ⟨⟩)
  exact ⟨hpaths, rfl, hclash, read, outcome, hrun, houtcome, hread hclash⟩

end SourceFacts
