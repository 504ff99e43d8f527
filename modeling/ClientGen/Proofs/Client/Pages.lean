import ClientGen.Proofs.Client.Resolved

namespace ClientGen.Client

open Schema

def page? (catalog : Catalog) (method : Method) : Option PageElement :=
  match shapeOf catalog method with
  | .ok (.paged field) => (PageElement.ofField field).toOption
  | _ => none

def pages (catalog : Catalog) (service : Service) : List PageElement :=
  service.methods.filterMap (page? catalog)

variable {catalog : Catalog} {options : Options} {file : File} {service : Service} {client : Client}

theorem ResolvedCall.rel_page? {method : Method} {call : Call} {serviceName : String}
    (h : ResolvedCall catalog serviceName method call) :
    Option.Rel (fun page element => Element.resolve catalog page = .ok element)
      (page? catalog method) call.exchange.element? := by
  obtain ⟨shape, hs, he⟩ := h.exchange_eq
  rw [page?, hs]
  generalize call.exchange = exchange at he ⊢
  cases Exchange.resolved_of_resolve he with
  | paged hpage _ _ helem =>
    change Option.Rel _ (PageElement.ofField _).toOption (some _)
    rw [hpage]
    exact .some helem
  | _ => exact .none

/-- The elements of a client are what its pages hold, with their Go types. -/
theorem Resolved.forall₂_pages (h : Resolved catalog options file service client) :
    List.Forall₂ (fun page element => Element.resolve catalog page = .ok element)
      (pages catalog service) client.elements :=
  List.rel_filterMap (fun _ _ hcall => hcall.rel_page?) h.calls_eq

theorem exists_field_of_mem_pages {page : PageElement} (h : page ∈ pages catalog service) :
    ∃ field, PageElement.ofField field = .ok page := by
  obtain ⟨method, _, h⟩ := List.mem_filterMap.mp h
  unfold page? at h
  split at h
  · rename_i field _
    cases hf : PageElement.ofField field with
    | error fault =>
      rw [hf] at h
      cases h
    | ok found =>
      rw [hf] at h
      cases h
      exact ⟨field, hf⟩
  · cases h

/-- A client imports all that its iterators need. -/
theorem mem_imports_of_element (client : Client) {element : Element}
    (he : element ∈ client.elements) {spec : ImportSpec}
    (hs : spec ∈ ClientImport.iterator :: element.imports) : spec ∈ client.imports.specs := by
  obtain ⟨call, hc, hex⟩ := List.mem_filterMap.mp he
  rw [imports, ImportSet.mem_ofList, List.mem_append]
  refine .inr (List.mem_flatMap.mpr ⟨call, hc, ?_⟩)
  unfold Exchange.element? at hex
  split at hex
  · rename_i hpaged
    cases hex
    rw [hpaged, Exchange.imports]
    rcases List.mem_cons.mp hs with rfl | hs
    · simp
    · exact List.mem_append_right _ hs
  · cases hex

end ClientGen.Client
