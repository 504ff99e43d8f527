import ClientGen.Proofs.Call.Shape
import ClientGen.Proofs.Catalog.Names
import ClientGen.Proofs.Client.ImportNames

namespace ClientGen

open Schema

theorem PageElement.exists_ofField_iff {field : Field} :
    (∃ page, ofField field = .ok page) ↔
      field.kind ≠ .enum ∧ (field.kind = .message → ∃ typeName, field.typeName = some typeName) := by
  unfold ofField
  cases hk : field.kind <;> cases ht : field.typeName <;> simp [FieldKind.scalar?]

namespace ClientImport

theorem exists_ofFile_iff {file : File} :
    (∃ spec, ofFile file = .ok spec) ↔ ∃ spec, ImportSpec.ofFile file = .ok spec := by
  unfold ofFile
  constructor
  · rintro ⟨spec, h⟩
    obtain ⟨raw, hr, _⟩ := Except.bind_eq_ok_iff.mp h
    exact ⟨raw, hr⟩
  · rintro ⟨raw, hr⟩
    rw [hr]
    exact ⟨_, rfl⟩

end ClientImport

namespace Client

variable {catalog : Catalog} {method : Method} {shape : CallShape} {name : String}

theorem exists_shapeOf_iff :
    (∃ shape, shapeOf catalog method = .ok shape) ↔
      (∃ input, catalog.message method.inputType = .ok input) ∧
        (∃ output, catalog.message method.outputType = .ok output) ∧
        (method.outputType ≠ operationType → ∀ input output,
          catalog.message method.inputType = .ok input →
            catalog.message method.outputType = .ok output →
              CallShape.CarriesTokens input output → output.repeatedFields.length = 1) := by
  simp only [shapeOf_eq_ok_iff, ← CallShape.isPageShaped_iff_carriesTokens]
  constructor
  · rintro ⟨shape, input, output, hi, ho, hs⟩
    refine ⟨⟨input, hi⟩, ⟨output, ho⟩, ?_⟩
    intro hne input' output' hi' ho' hp
    rw [hi] at hi'
    rw [ho] at ho'
    cases hi'
    cases ho'
    exact CallShape.exists_classify_iff.mp ⟨shape, hs⟩ hne hp
  · rintro ⟨⟨input, hi⟩, ⟨output, ho⟩, hpages⟩
    obtain ⟨shape, hs⟩ := CallShape.exists_classify_iff.mpr fun hne => hpages hne input output hi ho
    exact ⟨shape, input, output, hi, ho, hs⟩

inductive NamesType (catalog : Catalog) (method : Method) : String → Prop
  | request {shape : CallShape} (h : shapeOf catalog method = .ok shape)
      (hclient : shape ≠ .clientStreaming) (hbidi : shape ≠ .bidiStreaming) :
      NamesType catalog method method.inputType
  | response (h : shapeOf catalog method = .ok .unary) (he : method.outputType ≠ emptyType) :
      NamesType catalog method method.outputType
  | page {field : Field} (h : shapeOf catalog method = .ok (.paged field)) :
      NamesType catalog method method.outputType
  | operation (h : shapeOf catalog method = .ok .longRunning) : NamesType catalog method operationType
  | element {field : Field} {typeName : String} (h : shapeOf catalog method = .ok (.paged field))
      (hk : field.kind = .message) (ht : field.typeName = some typeName) :
      NamesType catalog method typeName

theorem namesType_iff (hs : shapeOf catalog method = .ok shape) :
    NamesType catalog method name ↔ name ∈ shape.typeNames method := by
  constructor
  · intro h
    cases h with
    | request hs' hclient hbidi =>
      cases hs.symm.trans hs'
      exact CallShape.inputType_mem_typeNames hclient hbidi
    | response hs' he =>
      cases hs.symm.trans hs'
      simp [CallShape.typeNames, he]
    | page hs' | operation hs' =>
      cases hs.symm.trans hs'
      simp [CallShape.typeNames]
    | element hs' hk ht =>
      cases hs.symm.trans hs'
      simp [CallShape.typeNames, hk, ht]
  · intro h
    cases shape with
    | unary =>
      rcases CallShape.mem_typeNames_unary.mp h with rfl | ⟨he, rfl⟩
      · exact .request hs (by simp) (by simp)
      · exact .response hs he
    | serverStreaming =>
      cases List.mem_singleton.mp h
      exact .request hs (by simp) (by simp)
    | clientStreaming | bidiStreaming => cases h
    | longRunning =>
      rcases List.mem_pair.mp h with rfl | rfl
      · exact .request hs (by simp) (by simp)
      · exact .operation hs
    | paged field =>
      rcases CallShape.mem_typeNames_paged.mp h with rfl | rfl | ⟨hk, ht⟩
      · exact .request hs (by simp) (by simp)
      · exact .page hs
      · exact .element hs hk ht

/-- A method of known shape can be written just when all types that are named in it can, and its
pages hold no enums. -/
theorem exists_exchange_iff (h : shapeOf catalog method = .ok shape) :
    (∃ exchange, Exchange.Resolved catalog method shape exchange) ↔
      (∀ name, NamesType catalog method name → ∃ type, catalog.goType name = .ok type) ∧
        ∀ field, shape = .paged field →
          field.kind ≠ .enum ∧ (field.kind = .message → ∃ typeName,
            field.typeName = some typeName) := by
  constructor
  · rintro ⟨exchange, he⟩
    refine ⟨fun name hn => ?_, ?_⟩
    · obtain ⟨_, _, type, htype, _⟩ :=
        Except.exists_mem_of_forall₂ he.forall₂_typeImports.flip ((namesType_iff h).mp hn)
      exact ⟨type, htype⟩
    · rintro field rfl
      cases he with
      | paged hpage => exact PageElement.exists_ofField_iff.mp ⟨_, hpage⟩
  · rintro ⟨htypes, hpages⟩
    cases shape with
    | unary =>
      obtain ⟨_, hreq⟩ := htypes _ (.request h (by simp) (by simp))
      by_cases he : method.outputType = emptyType
      · exact ⟨_, .acknowledged hreq he⟩
      · obtain ⟨_, hres⟩ := htypes _ (.response h he)
        exact ⟨_, .unary hreq he hres⟩
    | serverStreaming =>
      obtain ⟨_, hreq⟩ := htypes _ (.request h (by simp) (by simp))
      exact ⟨_, .serverStream hreq⟩
    | clientStreaming => exact ⟨_, .clientStream⟩
    | bidiStreaming => exact ⟨_, .bidiStream⟩
    | longRunning =>
      obtain ⟨_, hreq⟩ := htypes _ (.request h (by simp) (by simp))
      obtain ⟨_, hop⟩ := htypes _ (.operation h)
      exact ⟨_, .longRunning hreq hop⟩
    | paged field =>
      obtain ⟨_, hreq⟩ := htypes _ (.request h (by simp) (by simp))
      obtain ⟨_, hres⟩ := htypes _ (.page h)
      obtain ⟨page, hpage⟩ := PageElement.exists_ofField_iff.mpr (hpages field rfl)
      cases page with
      | scalar goType stem => exact ⟨_, .paged hpage hreq hres rfl⟩
      | message typeName =>
        obtain ⟨hk, ht⟩ := PageElement.ofField_eq_ok_message_iff.mp hpage
        obtain ⟨type, htype⟩ := htypes _ (.element h hk ht)
        exact ⟨_, .paged hpage hreq hres (Element.resolve_message_eq_ok_iff.mpr ⟨type, htype, rfl⟩)⟩

end Client

end ClientGen
