import DockerfileLint.Check.Layers
import DockerfileLint.Proofs.Layer.Size

/-! Layers are judged in order, and the size of each is handed on to the next.  What is found can be
read off the list of sizes without that: every layer is held against the limits, and against the
entry right before its own. -/

namespace DockerfileLint.Check

variable {advice : Text} {limits : LayerLimits} {sizes : List LayerSize} {previous layer : LayerSize}

/-- The entry right before a place; the first place has none. -/
def predecessor? (sizes : List LayerSize) (place : Nat) : Option LayerSize :=
  if place = 0 then none else sizes[place - 1]?

/-- A layer outgrows another by the factor, and by more bytes than are let pass.  The bytes are whole
numbers here, so no sum of them is too large. -/
def Outgrows (limits : LayerLimits) (previous layer : LayerSize) : Prop :=
  0 < previous.bytes ∧ previous.bytes.toFloat * limits.growthFactor < layer.bytes.toFloat ∧
    previous.bytes + limits.minGrowthBytes < layer.bytes

instance : DecidableRel (Outgrows limits) := fun _ _ => inferInstanceAs (Decidable (_ ∧ _ ∧ _))

theorem isOutgrown_iff : limits.isOutgrown previous.bytes layer.bytes = true ↔
    Outgrows limits previous layer := by
  simp only [LayerLimits.isOutgrown, Bool.and_eq_true, decide_eq_true_eq, and_assoc, Outgrows]
  refine and_congr_right fun filled => and_congr_right fun _ => ?_
  omega

/-- What grows is larger, by the very number of bytes that is reported. -/
theorem Outgrows.exists_growth (outgrows : Outgrows limits previous layer) :
    ∃ growth, layer.bytes = previous.bytes + growth ∧ limits.minGrowthBytes < growth := by
  obtain ⟨_, _, more⟩ := outgrows
  exact ⟨layer.bytes - previous.bytes, by omega, by omega⟩

theorem predecessor?_append (before rest : List LayerSize) :
    predecessor? (before ++ rest) before.length = before.getLast? := by
  rw [predecessor?, List.getLast?_eq_getElem?]
  cases before with
  | nil => rfl
  | cons first before => rw [if_neg (by simp), List.getElem?_append_left (by simp)]

def layerVerdicts (advice : Text) (limits : LayerLimits) (previous? : Option LayerSize)
    (layer : LayerSize) : List Issue :=
  if layer.index = 0 then []
  else
    (if limits.maxBytes < layer.bytes then [largeLayerWarning advice layer.index layer.bytes]
      else []) ++
    match previous? with
    | some previous =>
      if Outgrows limits previous layer then
        [growingLayerWarning advice layer.index (layer.bytes - previous.bytes)]
      else []
    | none => []

/-- Nothing outgrows a layer without bytes, so no bytes can stand for no layer. -/
theorem layerFindings_eq (previous? : Option LayerSize) (layer : LayerSize) :
    layerFindings advice limits (previous?.elim 0 LayerSize.bytes) layer =
      layerVerdicts advice limits previous? layer := by
  rw [layerFindings, layerVerdicts.eq_def]
  congr 2
  · simp [LayerLimits.isExceeded]
  · cases previous? with
    | none => rfl
    | some previous => exact if_congr isOutgrown_iff rfl rfl

/-- The bytes handed on are those of the last layer that was judged, whether anything was found about
it or not. -/
theorem layersFindings_eq (before rest : List LayerSize) :
    layersFindings advice limits (before.getLast?.elim 0 LayerSize.bytes) rest =
      (rest.zipIdx before.length).flatMap fun (layer, place) =>
        layerVerdicts advice limits (predecessor? (before ++ rest) place) layer := by
  induction rest generalizing before with
  | nil => rfl
  | cons layer rest ih =>
    have further := ih (before ++ [layer])
    rw [List.getLast?_concat, List.length_append, List.append_assoc, List.singleton_append] at further
    have here := predecessor?_append before (layer :: rest)
    rw [layersFindings, layerFindings_eq, ← here, List.zipIdx_cons, List.flatMap_cons]
    exact congrArg _ further

/-- The entry before a place is the last one read above it: no line between the two is a layer. -/
theorem adjacent_of_predecessor? {history : Text} {place : Nat}
    (stands : (LayerSize.ofHistory history)[place]? = some layer)
    (before : predecessor? (LayerSize.ofHistory history) place = some previous) :
    previous.index < layer.index ∧ ∀ other ∈ LayerSize.ofHistory history,
      other.index ≤ previous.index ∨ layer.index ≤ other.index := by
  have ordered := List.pairwise_iff_getElem.mp (LayerSize.pairwise_index_ofHistory history)
  rw [predecessor?] at before
  split at before
  · cases before
  · rename_i later
    obtain ⟨inside, rfl⟩ := List.getElem?_eq_some_iff.mp stands
    obtain ⟨inside', rfl⟩ := List.getElem?_eq_some_iff.mp before
    refine ⟨ordered (place - 1) place inside' inside (by omega), fun other member => ?_⟩
    obtain ⟨otherPlace, insideOther, rfl⟩ := List.getElem_of_mem member
    by_cases above : otherPlace < place
    · rcases Nat.lt_or_eq_of_le (Nat.le_sub_one_of_lt above) with earlier | rfl
      · exact .inl (Nat.le_of_lt (ordered otherPlace (place - 1) insideOther inside' earlier))
      · exact .inl (Nat.le_refl _)
    · rcases Nat.lt_or_eq_of_le (Nat.le_of_not_lt above) with further | rfl
      · exact .inr (Nat.le_of_lt (ordered place otherPlace inside insideOther further))
      · exact .inr (Nat.le_refl _)

/-- The findings on layers, exactly.  A layer is blamed for its size alone if it is over the limit,
and then for its growth if it outgrows the entry right before it, whatever lines were passed over
between them; the first layer of a history is never blamed.  The growth is the exact difference, and
both texts name the index of the layer and whole millions of bytes. -/
theorem layers_eq_flatMap {dockerfile : Dockerfile} {image output : Text} {history : LayerHistory}
    (limits : LayerLimits) (stage : dockerfile.has "FROM" = true) (named : image ≠ [])
    (available : history.isAvailable = true) (answered : history.output? image = some output) :
    let advice := Image.multistageAdvice dockerfile.baseImage
    let sizes := LayerSize.ofHistory output
    layers dockerfile image history limits =
        (sizes.zipIdx.flatMap fun (layer, place) =>
          layerVerdicts advice limits (predecessor? sizes place) layer) ∧
      (∀ place layer previous, sizes[place]? = some layer →
        predecessor? sizes place = some previous →
        previous.index < layer.index ∧
          ∀ other ∈ sizes, other.index ≤ previous.index ∨ layer.index ≤ other.index) ∧
      (∀ previous layer, Outgrows limits previous layer →
        ∃ growth, layer.bytes = previous.bytes + growth ∧ limits.minGrowthBytes < growth) ∧
      ∀ index bytes : Nat,
        (largeLayerWarning advice index bytes).message =
          "Layer " ++ Text.ofNat index ++ " adds " ++ (Text.ofNat (bytes / 1000000) ++ "MB") ++
            "; consider using multistage builds" ∧
        (growingLayerWarning advice index bytes).message =
          "Layer " ++ Text.ofNat index ++ " grows by " ++ (Text.ofNat (bytes / 1000000) ++ "MB") ++
            "; check for unneeded files" := by
  intro advice sizes
  have asked : historyRequest? dockerfile image history = some image :=
    if_pos ⟨stage, named, available⟩
  refine ⟨?_, fun _ _ _ => adjacent_of_predecessor?, fun _ _ => Outgrows.exists_growth,
    fun _ _ => ⟨rfl, rfl⟩⟩
  rw [layers, asked, Option.bind_some, answered]
  exact layersFindings_eq [] sizes

/-- A malformed line between two layers, a base that is larger than any limit, and a layer that
grows without being too large. -/
theorem layers_eq_flatMap_malformed :
    let dockerfile := Dockerfile.ofInstructions [] [.ofSource 1 "FROM a"]
    let output : Text := "900000000\n150000000\n20000000\nabc\n90000000\n"
    let history : LayerHistory := { isAvailable := true, output? := fun _ => some output }
    let advice := Image.multistageAdvice dockerfile.baseImage
    let sizes := LayerSize.ofHistory output
    (dockerfile.has "FROM" = true ∧ ("a" : Text) ≠ [] ∧ history.isAvailable = true ∧
      history.output? "a" = some output) ∧
      sizes = [⟨0, 900000000⟩, ⟨1, 150000000⟩, ⟨2, 20000000⟩, ⟨4, 90000000⟩] ∧
      layers dockerfile "a" history {} =
        [largeLayerWarning advice 1 150000000, growingLayerWarning advice 4 70000000] := by
  intro dockerfile output history advice sizes
  have met : dockerfile.has "FROM" = true ∧ ("a" : Text) ≠ [] ∧ history.isAvailable = true ∧
      history.output? "a" = some output := by
    decide +kernel
  have read : sizes = [⟨0, 900000000⟩, ⟨1, 150000000⟩, ⟨2, 20000000⟩, ⟨4, 90000000⟩] := by
    decide +kernel
  obtain ⟨stage, named, available, answered⟩ := met
  refine ⟨⟨stage, named, available, answered⟩, read, ?_⟩
  have findings : layers dockerfile "a" history {} =
      sizes.zipIdx.flatMap fun (layer, place) =>
        layerVerdicts advice {} (predecessor? sizes place) layer :=
    (layers_eq_flatMap {} stage named available answered).1
  have shrinks : ¬Outgrows {} ⟨0, 900000000⟩ ⟨1, 150000000⟩ := by decide +kernel
  have shrinksMore : ¬Outgrows {} ⟨1, 150000000⟩ ⟨2, 20000000⟩ := by decide +kernel
  have grows : Outgrows {} ⟨2, 20000000⟩ ⟨4, 90000000⟩ := by decide +kernel
  rw [findings, read]
  simp [layerVerdicts, predecessor?, shrinks, shrinksMore, grows]

end DockerfileLint.Check
