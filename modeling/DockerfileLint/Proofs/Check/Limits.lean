import DockerfileLint.Proofs.Check.Findings
import DockerfileLint.Proofs.Layer.Size
import DockerfileLint.Proofs.Text.Words

/-! Layers held against two sets of limits.  The size that is handed on from one layer to the next has
nothing to do with limits, so two runs over one history can be compared layer by layer.  Larger
limits on bytes only take findings away, and each of the two decides about findings of its own. -/

namespace DockerfileLint

namespace LayerLimits

variable {loose strict : LayerLimits} {previous bytes : Nat}

/-- The limits on bytes are no smaller.  The factor is the same one, whatever it is. -/
structure Relaxes (loose strict : LayerLimits) : Prop where
  growthFactor : loose.growthFactor = strict.growthFactor
  maxBytes : strict.maxBytes ≤ loose.maxBytes
  minGrowthBytes : strict.minGrowthBytes ≤ loose.minGrowthBytes

theorem Relaxes.isExceeded (relaxes : loose.Relaxes strict)
    (exceeded : loose.isExceeded bytes = true) : strict.isExceeded bytes = true := by
  have above : loose.maxBytes < bytes := of_decide_eq_true exceeded
  exact decide_eq_true (Nat.lt_of_le_of_lt relaxes.maxBytes above)

theorem Relaxes.isOutgrown (relaxes : loose.Relaxes strict)
    (outgrown : loose.isOutgrown previous bytes = true) :
    strict.isOutgrown previous bytes = true := by
  simp only [LayerLimits.isOutgrown, Bool.and_eq_true, decide_eq_true_eq] at outgrown ⊢
  obtain ⟨⟨filled, factor⟩, growth⟩ := outgrown
  rw [relaxes.growthFactor] at factor
  exact ⟨⟨filled, factor⟩, Nat.lt_of_le_of_lt relaxes.minGrowthBytes growth⟩

end LayerLimits

namespace Check

variable {advice image : Text} {loose strict limits : LayerLimits} {previous index bytes : Nat}
variable {layer : LayerSize} {dockerfile : Dockerfile} {history : LayerHistory} {issue : Issue}

/-- What a warning says of a layer: the word behind the index. -/
def layerVerb? (issue : Issue) : Option Text := (Text.words issue.message)[2]?

private theorem layerVerb?_of_begins {start middle verb : Text} (nonempty : verb ≠ [])
    (visible : ∀ c ∈ verb, Text.isBlank c = false) (opening : start = ("Layer" : Text) ++ [' '])
    (spaced : [' '] ++ verb ++ [' '] <+: middle)
    (begins : start ++ Text.ofNat index ++ middle <+: issue.message) :
    layerVerb? issue = some verb := by
  obtain ⟨more, rfl⟩ := spaced
  obtain ⟨rest, whole⟩ := begins
  have written : Text.ofNat index ≠ [] := (Text.trimmed_ofNat index).ne_nil
  have digits : ∀ c ∈ Text.ofNat index, Text.isBlank c = false :=
    fun c member => Text.visible_of_mem_ofNat member
  have space : Text.isBlank ' ' = true := rfl
  have layer : ∀ c ∈ ("Layer" : Text), Text.isBlank c = false := Text.visible_of_all rfl
  have words : Text.words issue.message =
      ("Layer" : Text) :: Text.ofNat index :: verb :: Text.words (more ++ rest) := by
    rw [← whole, opening]
    simp only [List.append_assoc, List.cons_append, List.nil_append]
    rw [Text.words_word (by decide) layer space, Text.words_word written digits space,
      Text.words_word nonempty visible space]
  rw [layerVerb?, words]
  rfl

theorem layerVerb?_largeLayerWarning :
    layerVerb? (largeLayerWarning advice index bytes) = some ("adds" : Text) := by
  apply layerVerb?_of_begins _ _ _ _ ((List.prefix_append _ _).trans (List.prefix_append _ _))
  · decide
  · exact Text.visible_of_all rfl
  · rfl
  · decide

theorem layerVerb?_growingLayerWarning :
    layerVerb? (growingLayerWarning advice index bytes) = some ("grows" : Text) := by
  apply layerVerb?_of_begins _ _ _ _ ((List.prefix_append _ _).trans (List.prefix_append _ _))
  · decide
  · exact Text.visible_of_all rfl
  · rfl
  · decide

/-- A relation that holds of two lists as soon as it holds of their pieces. -/
structure Piecewise (related : List Issue → List Issue → Prop) : Prop where
  nil : related [] []
  append : ∀ {first second later last : List Issue},
    related first second → related later last → related (first ++ later) (second ++ last)

theorem piecewise_sublist : Piecewise List.Sublist := ⟨.slnil, List.Sublist.append⟩

theorem piecewise_filter (keep : Issue → Bool) :
    Piecewise fun first second => first.filter keep = second.filter keep := by
  refine ⟨rfl, ?_⟩
  intro first second later last front back
  rw [List.filter_append, List.filter_append, front, back]

section Runs
variable {related : List Issue → List Issue → Prop}

/-- The sizes that are handed on are the same in both runs. -/
theorem layersFindings_related (piecewise : Piecewise related)
    (each : ∀ previous layer, related (layerFindings advice loose previous layer)
      (layerFindings advice strict previous layer)) (previous : Nat) (sizes : List LayerSize) :
    related (layersFindings advice loose previous sizes)
      (layersFindings advice strict previous sizes) := by
  induction sizes generalizing previous with
  | nil => exact piecewise.nil
  | cons layer rest ih => exact piecewise.append (each previous layer) (ih layer.bytes)

theorem layers_related (piecewise : Piecewise related)
    (each : ∀ advice previous layer, related (layerFindings advice loose previous layer)
      (layerFindings advice strict previous layer)) :
    related (layers dockerfile image history loose) (layers dockerfile image history strict) := by
  rw [layers, layers]
  cases (historyRequest? dockerfile image history).bind history.output? with
  | none => exact piecewise.nil
  | some output => exact layersFindings_related piecewise (each _) 0 _

end Runs

private theorem ite_sublist {p q : Prop} [Decidable p] [Decidable q] (implies : p → q)
    (findings : List Issue) :
    (if p then findings else []).Sublist (if q then findings else []) := by
  by_cases holds : p
  · rw [if_pos holds, if_pos (implies holds)]
  · rw [if_neg holds]
    exact List.nil_sublist _

theorem layerFindings_sublist (relaxes : loose.Relaxes strict) (advice : Text) (previous : Nat)
    (layer : LayerSize) :
    (layerFindings advice loose previous layer).Sublist
      (layerFindings advice strict previous layer) := by
  rw [layerFindings, layerFindings]
  split
  · exact .slnil
  · exact (ite_sublist relaxes.isExceeded _).append (ite_sublist relaxes.isOutgrown _)

section Filters
variable {condition : Prop} [Decidable condition] {keep : Issue → Bool}

private theorem filter_ite_of_kept (kept : keep issue = true) :
    (if condition then [issue] else []).filter keep = if condition then [issue] else [] := by
  split
  · exact List.filter_cons_of_pos kept
  · rfl

private theorem filter_ite_of_left (left : ¬keep issue = true) :
    (if condition then [issue] else []).filter keep = [] := by
  split
  · exact List.filter_cons_of_neg left
  · rfl

end Filters

theorem filter_adds_layerFindings (advice : Text) (limits : LayerLimits) (previous : Nat)
    (layer : LayerSize) :
    (layerFindings advice limits previous layer).filter (layerVerb? · = some ("adds" : Text)) =
      if layer.index = 0 then []
      else if limits.isExceeded layer.bytes then
        [largeLayerWarning advice layer.index layer.bytes]
      else [] := by
  rw [layerFindings]
  split
  · rfl
  · rw [List.filter_append, filter_ite_of_kept, filter_ite_of_left, List.append_nil]
    · rw [layerVerb?_growingLayerWarning]
      decide
    · rw [layerVerb?_largeLayerWarning]
      decide

theorem filter_grows_layerFindings (advice : Text) (limits : LayerLimits) (previous : Nat)
    (layer : LayerSize) :
    (layerFindings advice limits previous layer).filter (layerVerb? · = some ("grows" : Text)) =
      if layer.index = 0 then []
      else if limits.isOutgrown previous layer.bytes then
        [growingLayerWarning advice layer.index (layer.bytes - previous)]
      else [] := by
  rw [layerFindings]
  split
  · rfl
  · rw [List.filter_append, filter_ite_of_left, filter_ite_of_kept, List.nil_append]
    · rw [layerVerb?_growingLayerWarning]
      decide
    · rw [layerVerb?_largeLayerWarning]
      decide

/-- Larger limits only take findings away, and those that stay are the same in every word.  A larger
limit on the size alone leaves all warnings about growth as they are, and a larger limit on the growth
alone those about size; there are no others. -/
theorem layers_relaxed (dockerfile : Dockerfile) (image : Text) (history : LayerHistory)
    (strict : LayerLimits) :
    let found := layers dockerfile image history
    (∀ loose : LayerLimits, loose.Relaxes strict → (found loose).Sublist (found strict)) ∧
      (∀ maxBytes, (found { strict with maxBytes }).filter (layerVerb? · = some ("grows" : Text)) =
        (found strict).filter (layerVerb? · = some ("grows" : Text))) ∧
      (∀ minGrowthBytes,
        (found { strict with minGrowthBytes }).filter (layerVerb? · = some ("adds" : Text)) =
          (found strict).filter (layerVerb? · = some ("adds" : Text))) ∧
      ∀ issue ∈ found strict,
        layerVerb? issue = some ("adds" : Text) ∨ layerVerb? issue = some ("grows" : Text) := by
  intro found
  refine ⟨?_, ?_, ?_, ?_⟩
  · intro loose relaxes
    exact layers_related piecewise_sublist (layerFindings_sublist relaxes)
  · intro maxBytes
    apply layers_related (piecewise_filter _)
    intro advice previous layer
    rw [filter_grows_layerFindings, filter_grows_layerFindings]
    rfl
  · intro minGrowthBytes
    apply layers_related (piecewise_filter _)
    intro advice previous layer
    rw [filter_adds_layerFindings, filter_adds_layerFindings]
    rfl
  · intro issue member
    cases layerFinding_of_mem_layers member with
    | large index bytes => exact .inl layerVerb?_largeLayerWarning
    | growing index growth => exact .inr layerVerb?_growingLayerWarning

/-- Of four warnings about two layers the larger limits leave one of each kind. -/
theorem layers_relaxed_kept :
    let dockerfile := Dockerfile.ofInstructions [] [.ofSource 1 "FROM a"]
    let output : Text := "1000\n150000000\n500000000\n"
    let history : LayerHistory := { isAvailable := true, output? := fun _ => some output }
    let advice := Image.multistageAdvice dockerfile.baseImage
    let loose : LayerLimits := { maxBytes := 200000000, minGrowthBytes := 300000000 }
    loose.Relaxes {} ∧
      layers dockerfile "a" history {} =
        [largeLayerWarning advice 1 150000000, growingLayerWarning advice 1 149999000,
          largeLayerWarning advice 2 500000000, growingLayerWarning advice 2 350000000] ∧
      layers dockerfile "a" history loose =
        [largeLayerWarning advice 2 500000000, growingLayerWarning advice 2 350000000] ∧
      (layers dockerfile "a" history loose).Sublist (layers dockerfile "a" history {}) := by
  intro dockerfile output history advice loose
  have relaxes : loose.Relaxes {} := ⟨rfl, by decide, by decide⟩
  have read : LayerSize.ofHistory output = [⟨0, 1000⟩, ⟨1, 150000000⟩, ⟨2, 500000000⟩] := by
    decide +kernel
  have asked : historyRequest? dockerfile "a" history = some ("a" : Text) := by decide +kernel
  have judged (limits : LayerLimits) : layers dockerfile "a" history limits =
      layerFindings advice limits 1000 ⟨1, 150000000⟩ ++
        layerFindings advice limits 150000000 ⟨2, 500000000⟩ := by
    have outcome : layers dockerfile "a" history limits =
        layersFindings advice limits 0 (LayerSize.ofHistory output) := by
      rw [layers, asked]
      rfl
    rw [outcome, read, layersFindings, layersFindings, layersFindings, layersFindings,
      List.append_nil]
    rfl
  have exceeded : LayerLimits.isExceeded {} 150000000 = true ∧
      LayerLimits.isExceeded {} 500000000 = true ∧ loose.isExceeded 150000000 = false ∧
      loose.isExceeded 500000000 = true := by
    decide
  have grown : LayerLimits.isOutgrown {} 1000 150000000 = true ∧
      LayerLimits.isOutgrown {} 150000000 500000000 = true ∧
      loose.isOutgrown 1000 150000000 = false ∧ loose.isOutgrown 150000000 500000000 = true := by
    decide +kernel
  refine ⟨relaxes, ?_, ?_, (layers_relaxed dockerfile "a" history {}).1 loose relaxes⟩
  · rw [judged]
    simp [layerFindings, exceeded, grown]
  · rw [judged]
    simp [layerFindings, exceeded, grown]

end Check

end DockerfileLint
