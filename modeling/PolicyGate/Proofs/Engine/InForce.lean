import PolicyGate.Policy.Service

/-!
# Which rules are in force

Requests are answered with one rule set at a time, and only two kinds of request exchange it: a publication
and a reload that succeeds. `Service.in_force` says what that means for any sequence of requests between
which the files may become any others. The rules in force are the ones of the last exchange; a request that
fails to build rules, at whatever stage, may as well not have been made; and behind a reload that succeeds
nothing is left of what the engine was before, so a new engine with the same profile gives the same answers.
-/

namespace PolicyGate
namespace Service

variable {s : Service} {r : Request} {set : RuleSet}

/-- The request puts the rule set in force: it publishes it, or it is a reload to which the files give it. -/
inductive Installs (s : Service) : Request → RuleSet → Prop where
  | publish (set : RuleSet) : Installs s (.publish set) set
  | reload {paths : List Path} {set : RuleSet} (built : s.engine.build s.files paths = .ok set) :
      Installs s (.reload paths) set

/-- None of the requests puts a rule set in force. -/
def Quiet (s : Service) : List Request → Prop
  | [] => True
  | r :: rest => (∀ set, ¬ s.Installs r set) ∧ (s.serve r).1.Quiet rest

/-! ## One request -/

theorem serve_profile (s : Service) (r : Request) :
    (s.serve r).1.engine.profile = s.engine.profile := by
  cases r with
  | reload paths =>
    simp only [serve, Engine.reload]
    cases s.engine.build s.files paths with
    | ok set => rfl
    | error e => rfl
  | _ => rfl

theorem Installs.active (h : s.Installs r set) : (s.serve r).1.engine.active = set := by
  cases h with
  | publish set => rfl
  | reload built =>
    simp only [serve, Engine.reload, built]
    rfl

/-- A request that puts nothing in force leaves the rules as they are. -/
theorem active_of_not_installs (h : ∀ set, ¬ s.Installs r set) :
    (s.serve r).1.engine.active = s.engine.active := by
  cases r with
  | publish set => exact absurd (.publish set) (h set)
  | reload paths =>
    simp only [serve, Engine.reload]
    cases hb : s.engine.build s.files paths with
    | ok set => exact absurd (.reload hb) (h set)
    | error e => rfl
  | _ => rfl

/-- A reload reports the rule set that it puts in force. -/
theorem reloaded_ok_iff {paths : List Path} {report : ReloadReport} :
    (s.serve (.reload paths)).2 = .reloaded (.ok report) ↔
      ∃ set, s.Installs (.reload paths) set ∧ report = set.report := by
  simp only [serve, Engine.reload]
  cases hb : s.engine.build s.files paths with
  | ok set =>
    constructor
    · intro h
      refine ⟨set, .reload hb, ?_⟩
      simpa [Except.map] using h.symm
    · rintro ⟨set', ⟨⟩ | built, rfl⟩
      rw [hb] at built
      obtain rfl := Except.ok.inj built
      rfl
  | error e =>
    constructor
    · intro h
      simp [Except.map] at h
    · rintro ⟨set', ⟨⟩ | built, -⟩
      rw [hb] at built
      cases built

theorem exists_report {paths : List Path} (h : (s.serve (.reload paths)).2.isFailure = false) :
    ∃ report, (s.serve (.reload paths)).2 = .reloaded (.ok report) := by
  simp only [serve, Engine.reload] at h ⊢
  cases hb : s.engine.build s.files paths with
  | ok set => exact ⟨set.report, rfl⟩
  | error e =>
    rw [hb] at h
    cases h

/-- A reload or a build that fails changes nothing, at whatever stage it fails. -/
theorem serve_of_isFailure (h : (s.serve r).2.isFailure = true) : (s.serve r).1 = s := by
  cases r with
  | reload paths =>
    simp only [serve, Engine.reload] at h ⊢
    cases hb : s.engine.build s.files paths with
    | ok set =>
      rw [hb] at h
      cases h
    | error e => rfl
  | build paths => rfl
  | _ => cases h

/-- What a build gives depends on the profile and the files, and not on the rules in force. -/
theorem build_congr {e e' : Engine} (h : e.profile = e'.profile) (files : FileTree)
    (paths : List Path) : e.build files paths = e'.build files paths := by
  simp only [Engine.build, h]

/-- A reload that succeeds leaves an engine that is all made of what the reload has read. -/
theorem serve_reload_of_installs {paths : List Path} {set : RuleSet}
    (h : s.Installs (.reload paths) set) :
    s.serve (.reload paths) =
      ({ engine := ⟨s.engine.profile, set⟩, files := s.files }, .reloaded (.ok set.report)) := by
  cases h with
  | reload built =>
    simp only [serve, Engine.reload, built]
    rfl

/-! ## Requests one after the other -/

@[simp] theorem after_cons (s : Service) (r : Request) (rest : List Request) :
    s.after (r :: rest) = (s.serve r).1.after rest := rfl

@[simp] theorem after_append (s : Service) (before later : List Request) :
    s.after (before ++ later) = (s.after before).after later := by
  simp only [after, List.foldl_append]

@[simp] theorem answers_append (s : Service) (before later : List Request) :
    s.answers (before ++ later) = s.answers before ++ (s.after before).answers later := by
  induction before generalizing s with
  | nil => rfl
  | cons r rest ih =>
    simp only [List.cons_append, answers, after_cons]
    rw [ih]

theorem length_answers (s : Service) (requests : List Request) :
    (s.answers requests).length = requests.length := by
  induction requests generalizing s with
  | nil => rfl
  | cons r rest ih =>
    simp only [answers, List.length_cons]
    rw [ih]

theorem after_profile (s : Service) (requests : List Request) :
    (s.after requests).engine.profile = s.engine.profile := by
  induction requests generalizing s with
  | nil => rfl
  | cons r rest ih =>
    rw [after_cons, ih, serve_profile]

/-- The rules in force after some requests are those at the start, if no request puts any in force, and
else those of the last request that does. -/
theorem active_after (s : Service) (requests : List Request) :
    s.Quiet requests ∧ (s.after requests).engine.active = s.engine.active ∨
      ∃ before r later set, requests = before ++ r :: later ∧ (s.after before).Installs r set ∧
        ((s.after before).serve r).1.Quiet later ∧ (s.after requests).engine.active = set := by
  induction requests generalizing s with
  | nil => exact .inl ⟨trivial, rfl⟩
  | cons r rest ih =>
    rcases ih (s.serve r).1 with ⟨hquiet, hactive⟩ | ⟨before, r', later, set, rfl, hi, hq, ha⟩
    · by_cases hr : ∃ set, s.Installs r set
      · obtain ⟨set, hset⟩ := hr
        exact .inr ⟨[], r, rest, set, rfl, hset, hquiet, hactive.trans hset.active⟩
      · have hno : ∀ set, ¬ s.Installs r set := fun set h => hr ⟨set, h⟩
        exact .inl ⟨⟨hno, hquiet⟩, hactive.trans (active_of_not_installs hno)⟩
    · exact .inr ⟨r :: before, r', later, set, rfl, hi, hq, ha⟩

/-- A request that leaves no trace can be left out. -/
theorem answers_without {before later : List Request}
    (h : ((s.after before).serve r).1 = s.after before) :
    s.answers (before ++ r :: later) =
      s.answers before ++ ((s.after before).serve r).2 :: (s.after before).answers later := by
  rw [answers_append, answers, h]

/-- For any sequence of requests, with the files changing in between as they like:

* the rules in force in the end are those of the last publication or successful reload, and those at the
  start if there was none;
* a reload or a build that fails, and any build at all, leaves the service as it was: all other requests
  are answered as if it had not been made;
* from a reload that succeeds on, the answers are those of a new engine with the same profile and nothing in
  force that is asked for the same reload of the same files, and for what comes after. -/
theorem in_force (s : Service) (requests : List Request) :
    (s.Quiet requests ∧ (s.after requests).engine.active = s.engine.active ∨
      ∃ before r later set, requests = before ++ r :: later ∧ (s.after before).Installs r set ∧
        ((s.after before).serve r).1.Quiet later ∧ (s.after requests).engine.active = set) ∧
    (∀ before r later, requests = before ++ r :: later →
      ((s.after before).serve r).2.isFailure = true ∨ (∃ paths, r = .build paths) →
        s.after requests = s.after (before ++ later) ∧
        ∃ earlier answer others, earlier.length = before.length ∧
          s.answers requests = earlier ++ answer :: others ∧
          s.answers (before ++ later) = earlier ++ others) ∧
    (∀ before paths later report, requests = before ++ .reload paths :: later →
      ((s.after before).serve (.reload paths)).2 = .reloaded (.ok report) →
        s.answers requests = s.answers before ++
          { engine := { profile := s.engine.profile }, files := (s.after before).files
            : Service }.answers (.reload paths :: later)) := by
  refine ⟨s.active_after requests, ?_, ?_⟩
  · rintro before r later rfl hr
    have hsame : ((s.after before).serve r).1 = s.after before := by
      rcases hr with hfail | ⟨paths, rfl⟩
      · exact serve_of_isFailure hfail
      · rfl
    refine ⟨?_, s.answers before, _, _, s.length_answers before, answers_without hsame, ?_⟩
    · rw [after_append, after_cons, hsame, after_append]
    · rw [answers_append]
  · rintro before paths later report rfl hok
    obtain ⟨set, hset, -⟩ := reloaded_ok_iff.1 hok
    have hprofile := s.after_profile before
    -- the new engine builds the same rule set, and the two engines agree in all they are made of
    have hnew : ({ engine := { profile := s.engine.profile }, files := (s.after before).files }
        : Service).Installs (.reload paths) set := by
      cases hset with
      | reload built =>
        refine .reload ?_
        rw [← built]
        exact build_congr hprofile.symm _ _
    rw [answers_append]
    simp only [answers]
    rw [serve_reload_of_installs hset, serve_reload_of_installs hnew, hprofile]

/-! ### An update that is torn while it is written -/

/-- Where the rules of the example stand. -/
def rulesFile : Path := { steps := ["rules.yaml"] }

/-- The rules as they should be. -/
def wholeFolder : FileTree :=
  ⟨[(["rules.yaml"], .file
    "github:\n  create_repository:\n    require_description: true\n".toUTF8.toList)], []⟩

/-- The file ends in the middle of a list. -/
def tornFolder : FileTree := ⟨[(["rules.yaml"], .file "policies: [".toUTF8.toList)], []⟩

/-- An engine that has other rules and an alias in force from before. -/
def stale : Service where
  engine :=
    { active :=
        { rules := [{ id := "old", description := "", target := .space "azure", effect := .deny }]
          aliases := [("platform.create", "azure.create")] } }
  files := wholeFolder

/-- The rules are reloaded, then the file is torn, and the next reload fails. -/
def tornUpdate : List Request :=
  [.reload [rulesFile], .files tornFolder, .reload [rulesFile], .evaluate "azure.create" .null []]

/-- The torn file changes no later answer, and of the rules and the alias from before nothing is left. -/
theorem tornUpdate_in_force :
    ((stale.after [.reload [rulesFile], .files tornFolder]).serve (.reload [rulesFile])).2.isFailure
        = true ∧
      (∃ report, (stale.serve (.reload [rulesFile])).2 = .reloaded (.ok report)) ∧
      stale.after tornUpdate =
        stale.after [.reload [rulesFile], .files tornFolder, .evaluate "azure.create" .null []] ∧
      stale.answers tornUpdate =
        { engine := { profile := "" }, files := wholeFolder : Service }.answers tornUpdate := by
  have hfail : ((stale.after [.reload [rulesFile], .files tornFolder]).serve
      (.reload [rulesFile])).2.isFailure = true := by decide +kernel
  have hok : (stale.serve (.reload [rulesFile])).2.isFailure = false := by decide +kernel
  obtain ⟨report, hreport⟩ := exists_report hok
  obtain ⟨-, hwithout, hfresh⟩ := in_force stale tornUpdate
  exact ⟨hfail, ⟨report, hreport⟩, (hwithout [_, _] _ _ rfl (.inl hfail)).1,
    hfresh [] _ _ report rfl hreport⟩

end Service
end PolicyGate
