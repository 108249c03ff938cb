import DockerfileLint.Proofs.Linter.Groups

/-! What a run asks of the source of histories, and what it makes of the answers.  A run is written
once more as a dialogue, without its source.  So the questions can be counted, and they turn out to
be at most two: whether the source is there, and one for a history. -/

namespace DockerfileLint

/-- A computation that may put questions to a source of histories. -/
inductive Inquiry (α : Type) where
  | done (result : α)
  | isAvailable (next : Bool → Inquiry α)
  | history (image : Text) (next : Option Text → Inquiry α)

namespace Inquiry

variable {α β : Type} {source : LayerHistory}

def map (f : α → β) : Inquiry α → Inquiry β
  | .done result => .done (f result)
  | .isAvailable next => .isAvailable fun answer => (next answer).map f
  | .history image next => .history image fun answer => (next answer).map f

/-- What the computation comes to when a source gives the answers. -/
def result (source : LayerHistory) : Inquiry α → α
  | .done result => result
  | .isAvailable next => (next source.isAvailable).result source
  | .history image next => (next (source.output? image)).result source

/-- The images whose histories are asked for, one for each question. -/
def asked (source : LayerHistory) : Inquiry α → List Text
  | .done _ => []
  | .isAvailable next => (next source.isAvailable).asked source
  | .history image next => image :: (next (source.output? image)).asked source

theorem result_map (f : α → β) (inquiry : Inquiry α) :
    (inquiry.map f).result source = f (inquiry.result source) := by
  induction inquiry with
  | done result => rfl
  | isAvailable next ih => exact ih source.isAvailable
  | history image next ih => exact ih (source.output? image)

theorem asked_map (f : α → β) (inquiry : Inquiry α) :
    (inquiry.map f).asked source = inquiry.asked source := by
  induction inquiry with
  | done result => rfl
  | isAvailable next ih => exact ih source.isAvailable
  | history image next ih => exact congrArg (image :: ·) (ih (source.output? image))

end Inquiry

namespace Check

variable {dockerfile : Dockerfile} {image : Text} {source : LayerHistory} {limits : LayerLimits}

/-- The checks of layer sizes as a dialogue.  They look at the Dockerfile first, then for the
source, and only then ask for a history. -/
def layersInquiry (dockerfile : Dockerfile) (image : Text) (limits : LayerLimits) :
    Inquiry (List Issue) :=
  if dockerfile.has "FROM" ∧ image ≠ [] then
    .isAvailable fun available =>
      if available then
        .history image fun
          | some output =>
            .done (layersFindings (Image.multistageAdvice dockerfile.baseImage) limits 0
              (LayerSize.ofHistory output))
          | none => .done []
      else .done []
  else .done []

/-- The dialogue gives the findings, and its only request is the one that is due. -/
theorem layersInquiry_answered :
    (layersInquiry dockerfile image limits).result source =
        layers dockerfile image source limits ∧
      (layersInquiry dockerfile image limits).asked source =
        (historyRequest? dockerfile image source).toList := by
  rw [layersInquiry, layers, historyRequest?]
  by_cases guarded : dockerfile.has "FROM" = true ∧ image ≠ []
  · rw [if_pos guarded, Inquiry.result, Inquiry.asked]
    by_cases available : source.isAvailable = true
    · rw [if_pos available, if_pos ⟨guarded.1, guarded.2, available⟩, Option.bind_some]
      cases answer : source.output? image with
      | none => simp [Inquiry.result, Inquiry.asked, answer]
      | some output => simp [Inquiry.result, Inquiry.asked, answer]
    · rw [if_neg available, if_neg fun all => available all.2.2]
      exact ⟨rfl, rfl⟩
  · rw [if_neg guarded, if_neg fun all => guarded ⟨all.1, all.2.1⟩]
    exact ⟨rfl, rfl⟩

/-- Nothing is found in layers whose sizes are not known. -/
theorem layers_eq_nil
    (silent : (historyRequest? dockerfile image source).bind source.output? = none) :
    layers dockerfile image source limits = [] := by
  rw [layers, silent]

end Check

/-- The ways in which a container tool leaves the history of an image unknown.  A command that is
nowhere on the search path and a file that is not executable are both not installed. -/
inductive Toolbox.Silent (tools : Toolbox) (command image : Text) : Prop where
  | notInstalled (absent : tools.isInstalled command = false)
  | versionUnstarted (stuck : tools.run command versionArguments = none)
  | versionFailed {ended : ToolResult} (ran : tools.run command versionArguments = some ended)
      (failed : ended.exitCode ≠ 0)
  | historyUnstarted (stuck : tools.run command (historyArguments image) = none)
  | historyFailed {ended : ToolResult}
      (ran : tools.run command (historyArguments image) = some ended) (failed : ended.exitCode ≠ 0)

/-- Before the request or after it, every failure of a tool comes to the same. -/
theorem LayerHistory.ofTool_silent {tools : Toolbox} {command image : Text}
    (silent : tools.Silent command image) :
    (LayerHistory.ofTool tools command).isAvailable = false ∨
      (LayerHistory.ofTool tools command).output? image = none := by
  cases silent with
  | notInstalled absent => exact .inl (by simp [ofTool, absent])
  | versionUnstarted stuck => exact .inl (by simp [ofTool, stuck])
  | versionFailed ran failed => exact .inl (by simp [ofTool, ran, ToolResult.succeeded, failed])
  | historyUnstarted stuck => exact .inr (by simp [ofTool, stuck])
  | historyFailed ran failed => exact .inr (by simp [ofTool, ran, ToolResult.succeeded, failed])

namespace Linter

variable {linter : Linter} {files : FileAccess} {dockerfile : Dockerfile}

def inquiry (linter : Linter) (files : FileAccess) (dockerfile : Dockerfile) :
    Inquiry (List Issue) :=
  let checks := linter.settings.checks
  let before := (if checks.baseImage then Check.baseImage dockerfile else []) ++
    (if checks.bestPractices then
      Check.bestPractices dockerfile (linter.hasIgnoreFile files) else [])
  let after := if checks.security then Check.security dockerfile else []
  if checks.layerSizes then
    (Check.layersInquiry dockerfile (linter.inspectedImage dockerfile)
      linter.settings.layers.limits).map (before ++ · ++ after)
  else .done (before ++ after)

theorem result_inquiry (linter : Linter) (files : FileAccess) (dockerfile : Dockerfile) :
    (linter.inquiry files dockerfile).result linter.history = linter.run files dockerfile := by
  by_cases enabled : linter.settings.checks.layerSizes = true
  · simp only [inquiry, run, enabled, if_true]
    rw [Inquiry.result_map, Check.layersInquiry_answered.1]
  · simp only [inquiry, run, enabled, if_false, Bool.false_eq_true, List.append_nil, Inquiry.result]

theorem asked_inquiry (linter : Linter) (files : FileAccess) (dockerfile : Dockerfile) :
    (linter.inquiry files dockerfile).asked linter.history =
      (linter.historyRequest? dockerfile).toList := by
  by_cases enabled : linter.settings.checks.layerSizes = true
  · simp only [inquiry, historyRequest?, enabled, if_true]
    rw [Inquiry.asked_map, Check.layersInquiry_answered.2]
  · simp only [inquiry, historyRequest?, enabled, if_false, Bool.false_eq_true, Inquiry.asked,
      Option.toList_none]

theorem historyRequest?_eq_ite (linter : Linter) (dockerfile : Dockerfile) :
    linter.historyRequest? dockerfile =
      if linter.settings.checks.layerSizes = true ∧ dockerfile.has "FROM" = true ∧
          linter.inspectedImage dockerfile ≠ [] ∧ linter.history.isAvailable = true then
        some (linter.inspectedImage dockerfile)
      else none := by
  simp only [historyRequest?, Check.historyRequest?, ite_and]

theorem historyRequest?_cases (linter : Linter) (dockerfile : Dockerfile) :
    linter.historyRequest? dockerfile = none ∨
      linter.historyRequest? dockerfile = some (linter.inspectedImage dockerfile) ∧
        linter.history.isAvailable = true := by
  rw [historyRequest?_eq_ite]
  split
  · rename_i made
    exact .inr ⟨rfl, made.2.2.2⟩
  · exact .inl rfl

theorem run_eq_run_without
    (silent : linter.historyRequest? dockerfile = none ∨
      linter.history.output? (linter.inspectedImage dockerfile) = none) :
    linter.run files dockerfile = (linter.without .layerSizes).run files dockerfile := by
  have unanswered : (linter.historyRequest? dockerfile).bind linter.history.output? = none := by
    rcases linter.historyRequest?_cases dockerfile with quiet | ⟨made, _⟩
    · rw [quiet, Option.bind_none]
    · rcases silent with quiet | failed
      · rw [quiet, Option.bind_none]
      · rw [made, Option.bind_some, failed]
  obtain ⟨front, back, whole, rest⟩ := linter.run_without files dockerfile .layerSizes
  have block : linter.reported files dockerfile .layerSizes = [] := by
    by_cases enabled : linter.settings.checks.layerSizes = true
    · rw [historyRequest?, if_pos enabled] at unanswered
      rw [reported, findings, Check.layers_eq_nil unanswered, ite_self]
    · exact if_neg enabled
  rw [whole, rest, block, List.append_nil]

/-- All that a run makes of a source is its block of findings on layers. -/
theorem run_withHistory (linter : Linter) (files : FileAccess) (dockerfile : Dockerfile) :
    ∃ front back, ∀ history : LayerHistory,
      (linter.withHistory history).run files dockerfile =
        front ++ (if linter.settings.checks.layerSizes = true then
          Check.layers dockerfile (linter.inspectedImage dockerfile) history
            linter.settings.layers.limits else []) ++ back := by
  let checks := linter.settings.checks
  let base := if checks.baseImage then Check.baseImage dockerfile else []
  let practices := if checks.bestPractices then
    Check.bestPractices dockerfile (linter.hasIgnoreFile files) else []
  let secured := if checks.security then Check.security dockerfile else []
  exact ⟨base ++ practices, secured, fun history => rfl⟩

/-- A run and the source of histories.  The run asks for one history at most, for that of the
replacement of the base image if one is set and otherwise of the base image, and only if layers are to
be checked, a stage has begun, this image has a name and the source is there.  Without an answer it is
the run without layers, with one the findings on layers are all that depends on it, and a tool that
fails in any way gives no answer. -/
theorem run_history (linter : Linter) (files : FileAccess) (dockerfile : Dockerfile) :
    let checks := linter.settings.checks
    let image := linter.image.getD dockerfile.baseImage
    let inquiry := linter.inquiry files dockerfile
    inquiry.result linter.history = linter.run files dockerfile ∧
      inquiry.asked linter.history = (linter.historyRequest? dockerfile).toList ∧
      inquiry.asked linter.history =
        (if checks.layerSizes = true ∧ dockerfile.has "FROM" = true ∧ image ≠ [] ∧
          linter.history.isAvailable = true then [image] else []) ∧
      (inquiry.asked linter.history = [] ∨ linter.history.output? image = none →
        linter.run files dockerfile = (linter.without .layerSizes).run files dockerfile) ∧
      (∃ front back, ∀ history : LayerHistory,
        (linter.withHistory history).run files dockerfile =
          front ++ (if checks.layerSizes = true then
            Check.layers dockerfile image history linter.settings.layers.limits else []) ++ back) ∧
      ∀ (tools : Toolbox) (command : Text), tools.Silent command image →
        (linter.withHistory (.ofTool tools command)).run files dockerfile =
          (linter.without .layerSizes).run files dockerfile := by
  intro checks image inquiry
  have asked := linter.asked_inquiry files dockerfile
  refine ⟨linter.result_inquiry files dockerfile, asked, ?_, ?_,
    linter.run_withHistory files dockerfile, ?_⟩
  · rw [asked, historyRequest?_eq_ite, apply_ite Option.toList]
    rfl
  · rintro (quiet | failed)
    · rw [asked, Option.toList_eq_nil_iff] at quiet
      exact run_eq_run_without (.inl quiet)
    · exact run_eq_run_without (.inr failed)
  · intro tools command silent
    have other : ((linter.withHistory (.ofTool tools command)).without .layerSizes).run files
        dockerfile = (linter.without .layerSizes).run files dockerfile := rfl
    rw [← other]
    apply run_eq_run_without
    rcases LayerHistory.ofTool_silent silent with absent | unknown
    · rcases historyRequest?_cases (linter.withHistory (.ofTool tools command)) dockerfile with
        quiet | ⟨_, available⟩
      · exact .inl quiet
      · rw [withHistory, absent] at available
        cases available
    · exact .inr unknown

/-- A tool that is there is asked for the image that replaces the base image, does not know it, and
fails. -/
theorem run_history_unknown :
    let tools := Toolbox.ofKnown
      [{ name := "docker", versionExit := 0, histories := [], isExecutable := true, starts := true }]
    let files : FileAccess := { isPresent := fun _ => false, read := fun _ => .error .missing }
    let linter := (Linter.ofSettings tools {} []).withImage (some ("b" : Text))
    let dockerfile := Dockerfile.ofInstructions [] [.ofSource 1 "FROM a"]
    dockerfile.baseImage = ("a" : Text) ∧
      (linter.inquiry files dockerfile).asked linter.history = [("b" : Text)] ∧
      linter.run files dockerfile = (linter.without .layerSizes).run files dockerfile ∧
      (linter.withHistory (.ofTool tools "docker")).run files dockerfile =
        (linter.without .layerSizes).run files dockerfile := by
  intro tools files linter dockerfile
  have due : dockerfile.has "FROM" = true ∧ ("b" : Text) ≠ [] ∧
      linter.history.isAvailable = true := by
    decide +kernel
  have failed : tools.Silent "docker" "b" := .historyFailed rfl (by decide)
  have unknown : linter.history.output? "b" = none := by decide +kernel
  obtain ⟨_, _, asked, unanswered, _, fails⟩ := run_history linter files dockerfile
  refine ⟨by decide +kernel, ?_, unanswered (.inr unknown), fails tools "docker" failed⟩
  rw [asked]
  exact if_pos ⟨rfl, due⟩

end Linter

end DockerfileLint
