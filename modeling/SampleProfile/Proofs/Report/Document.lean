import SampleProfile.Proofs.Frame
import SampleProfile.Proofs.FunctionProfile.Walk
import SampleProfile.Proofs.Json
import SampleProfile.Report

/-!
# What the JSON format tells

The JSON format loses nothing that is reported: documents are the same exactly if the same functions
are reported with everything recorded in them, and the lists of unprofiled symbols are the same or
both absent (`document_eq_iff`).
-/

namespace SampleProfile.ReportFormat

/-! ## Counts and positions -/

theorem countJson_injective {left right : Count} (same : countJson left = countJson right) :
    left = right := by
  cases left with
  | execution leftSamples =>
      cases right with
      | execution rightSamples =>
          simp only [countJson, Json.object.injEq, List.cons.injEq, Prod.mk.injEq,
            Json.integer.injEq] at same
          rw [UInt64.toNat_inj.mp (Int.ofNat_inj.mp same.2.1.2)]
      | prefetchDelta delta => simp [countJson] at same
  | prefetchDelta leftDelta =>
      cases right with
      | execution samples => simp [countJson] at same
      | prefetchDelta rightDelta =>
          simp only [countJson, Json.object.injEq, List.cons.injEq, Prod.mk.injEq,
            Json.integer.injEq] at same
          rw [Int64.toInt_inj.mp same.2.1.2]

/-- A field that is absent when its list is empty tells the list if its value does. -/
theorem optional_inj {Item : Type} {name : String} (value : List Item → Json)
    {left right : List Item} (told : value left = value right → left = right)
    (same : (if left.isEmpty then [] else [(name, value left)]) =
      if right.isEmpty then [] else [(name, value right)]) : left = right := by
  cases left with
  | nil =>
      cases right with
      | nil => rfl
      | cons other others => cases same
  | cons first rest =>
      cases right with
      | nil => cases same
      | cons other others => exact told (Prod.mk.inj (List.cons.inj same).1).2

theorem positionJson_inj {leftOffset rightOffset : LineOffset} {left right : Position}
    (same : positionJson leftOffset left = positionJson rightOffset right) :
    leftOffset = rightOffset ∧ left = right := by
  obtain ⟨leftCount, leftTargets⟩ := left
  obtain ⟨rightCount, rightTargets⟩ := right
  simp only [positionJson, Json.object.injEq, List.cons_append, List.nil_append, List.cons.injEq,
    Prod.mk.injEq, Json.string.injEq, true_and] at same
  obtain ⟨sameOffset, sameCount, sameField⟩ := same
  have sameWritten := optional_inj .object Json.object.inj sameField
  have sameTargets : leftTargets = rightTargets := by
    apply Std.ExtTreeMap.toList_inj.mp
    refine (List.map_inj_right fun target other same => ?_).mp sameWritten
    obtain ⟨sameName, sameValue⟩ := Prod.mk.inj same
    exact Prod.ext sameName (countJson_injective sameValue)
  have samePosition : Position.mk leftCount leftTargets = Position.mk rightCount rightTargets := by
    rw [countJson_injective sameCount, sameTargets]
  exact ⟨LineOffset.render_injective sameOffset, samePosition⟩

theorem node_eq {left right : Node} (sameTotal : (left.total.toNat : Int) = right.total.toNat)
    (sameHead : (left.head.toNat : Int) = right.head.toNat)
    (sameWritten :
      (left.positions.toList.map fun position => positionJson position.1 position.2) =
        right.positions.toList.map fun position => positionJson position.1 position.2) :
    left = right := by
  obtain ⟨leftTotal, leftHead, leftPositions⟩ := left
  obtain ⟨rightTotal, rightHead, rightPositions⟩ := right
  have samePositions : leftPositions = rightPositions := by
    apply Std.ExtTreeMap.toList_inj.mp
    refine (List.map_inj_right fun position other same => ?_).mp sameWritten
    exact Prod.ext (positionJson_inj same).1 (positionJson_inj same).2
  have sameTotals : leftTotal = rightTotal := UInt64.toNat_inj.mp (Int.ofNat_inj.mp sameTotal)
  have sameHeads : leftHead = rightHead := UInt64.toNat_inj.mp (Int.ofNat_inj.mp sameHead)
  rw [sameTotals, sameHeads, samePositions]

/-! ## Functions -/

mutual

theorem treeFields_inj {leftName rightName : String} :
    ∀ {left right : InlineTree}, treeFields leftName left = treeFields rightName right →
      leftName = rightName ∧ left = right
  | .mk leftNode leftInlined, .mk rightNode rightInlined, same => by
      simp only [treeFields, List.cons_append, List.nil_append, List.cons.injEq, Prod.mk.injEq,
        Json.string.injEq, Json.integer.injEq, Json.array.injEq, true_and] at same
      obtain ⟨sameName, sameTotal, sameHead, samePositions, sameField⟩ := same
      -- The field of inlined calls comes last, so that nothing else can stand in its place where it
      -- is absent.
      have sameNode : leftNode = rightNode := node_eq sameTotal sameHead samePositions
      have sameInlined : leftInlined = rightInlined :=
        optional_inj (fun inlined => .array (inlinedJson inlined))
          (fun same => inlinedJson_inj (Json.array.inj same)) sameField
      exact ⟨sameName, by rw [sameNode, sameInlined]⟩

theorem inlinedJson_inj :
    ∀ {left right : List (Callsite × InlineTree)},
      inlinedJson left = inlinedJson right → left = right
  | [], [], _ => rfl
  | (leftCall, leftTree) :: lefts, (rightCall, rightTree) :: rights, same => by
      simp only [inlinedJson, List.cons.injEq, Json.object.injEq, Prod.mk.injEq, Json.string.injEq,
        true_and] at same
      obtain ⟨⟨sameOffset, sameFields⟩, sameOthers⟩ := same
      obtain ⟨sameCallee, sameTree⟩ := treeFields_inj sameFields
      have sameCall : leftCall = rightCall := by
        cases leftCall
        cases rightCall
        rw [Callsite.mk.injEq]
        exact ⟨LineOffset.render_injective sameOffset, sameCallee⟩
      have sameRest : lefts = rights := inlinedJson_inj sameOthers
      rw [sameCall, sameTree, sameRest]

end

/-! ## Documents -/

theorem symbolJson_inj {left right : SymbolList.Entry}
    (same : Json.object [("name", .string left.1), ("size", .integer left.2.toNat)] =
      .object [("name", .string right.1), ("size", .integer right.2.toNat)]) : left = right := by
  simp only [Json.object.injEq, List.cons.injEq, Prod.mk.injEq, Json.string.injEq,
    Json.integer.injEq, true_and, and_true] at same
  exact Prod.ext same.1 (UInt64.toNat_inj.mp (Int.ofNat_inj.mp same.2))

theorem documentJson_inj {left right : ProfileMap}
    {leftSymbols rightSymbols : Option (List SymbolList.Entry)}
    (same : documentJson left leftSymbols = documentJson right rightSymbols) :
    left.emitted = right.emitted ∧ leftSymbols = rightSymbols := by
  simp only [documentJson, List.cons_append, List.nil_append, Json.object.injEq, List.cons.injEq,
    Prod.mk.injEq, Json.array.injEq, true_and] at same
  obtain ⟨sameFunctions, sameField⟩ := same
  have sameEmitted : left.emitted = right.emitted := by
    refine (List.map_inj_right fun entry other same => ?_).mp sameFunctions
    obtain ⟨sameName, sameTree⟩ := treeFields_inj (Json.object.inj same)
    exact Prod.ext sameName (FunctionProfile.tree_injective sameTree)
  have sameSymbols : leftSymbols = rightSymbols := by
    cases leftSymbols with
    | none =>
        cases rightSymbols with
        | none => rfl
        | some entries => cases sameField
    | some leftEntries =>
        cases rightSymbols with
        | none => cases sameField
        | some rightEntries =>
            have sameWritten := Json.array.inj (Prod.mk.inj (List.cons.inj sameField).1).2
            rw [(List.map_inj_right fun _ _ => symbolJson_inj).mp sameWritten]
  exact ⟨sameEmitted, sameSymbols⟩

/-- Documents are the same exactly if the same functions are reported, with the same names, totals
and samples at their first instructions, with the same positions, counts and call targets of the
same kinds, and with the same in every instance inlined into them, and if the lists of unprofiled
symbols are the same; an absent list is not an empty one. -/
theorem document_eq_iff {left right : ProfileMap}
    {leftSymbols rightSymbols : Option (List SymbolList.Entry)} :
    (render .json left leftSymbols).toUTF8 = (render .json right rightSymbols).toUTF8 ↔
      left.emitted = right.emitted ∧ leftSymbols = rightSymbols := by
  rw [String.toUTF8_eq_toByteArray, String.toUTF8_eq_toByteArray, String.toByteArray_inj]
  constructor
  · intro same
    have sameText : (documentJson left leftSymbols).render =
        (documentJson right rightSymbols).render := by
      rw [render, render, ← String.toList_inj, String.toList_append, String.toList_append] at same
      exact String.toList_inj.mp (List.append_cancel_right same)
    exact documentJson_inj (Json.render_injective sameText)
  · rintro ⟨sameEmitted, sameSymbols⟩
    have sameDocument : documentJson left leftSymbols = documentJson right rightSymbols := by
      rw [sameSymbols]
      simp only [documentJson, sameEmitted]
    rw [render, render, sameDocument]

end SampleProfile.ReportFormat
