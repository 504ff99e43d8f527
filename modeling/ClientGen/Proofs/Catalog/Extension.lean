import ClientGen.Proofs.Catalog.Names
import ClientGen.Proofs.Client.Resolved

namespace ClientGen

open Schema

variable {c d : Catalog}

structure Catalog.Extends (c d : Catalog) : Prop where
  files : ∀ name file, c.file? name = some file → d.file? name = some file
  elements : ∀ name declaration,
    c.elements.get? name = some declaration → d.elements.get? name = some declaration
  comments : ∀ name, (c.elements.get? name).isSome → d.comment? name = c.comment? name

namespace Catalog.Extends

theorem message {name : String} {message : Message} (h : c.Extends d)
    (hm : c.message name = .ok message) : d.message name = .ok message := by
  obtain ⟨file, hd⟩ := message_eq_ok_iff.mp hm
  exact message_eq_ok_iff.mpr ⟨file, h.elements _ _ hd⟩

theorem owningFile {name : String} {file : File} (h : c.Extends d)
    (hf : c.owningFile name = .ok file) : d.owningFile name = .ok file := by
  obtain ⟨node, hd⟩ := owningFile_eq_ok_iff.mp hf
  exact owningFile_eq_ok_iff.mpr ⟨node, h.elements _ _ hd⟩

theorem goType {name : String} {type : GoType} (h : c.Extends d) (ht : c.goType name = .ok type) :
    d.goType name = .ok type := by
  obtain ⟨file, hf, hs, hn⟩ := goType_eq_ok_iff.mp ht
  exact goType_eq_ok_iff.mpr ⟨file, h.owningFile hf, hs, hn⟩

theorem shapeOf {method : Method} {shape : CallShape} (h : c.Extends d)
    (hs : Client.shapeOf c method = .ok shape) : Client.shapeOf d method = .ok shape := by
  obtain ⟨input, output, hi, ho, hs⟩ := Client.shapeOf_eq_ok_iff.mp hs
  exact Client.shapeOf_eq_ok_iff.mpr ⟨input, output, h.message hi, h.message ho, hs⟩

theorem element {page : PageElement} {element : Element} (h : c.Extends d)
    (he : Element.resolve c page = .ok element) : Element.resolve d page = .ok element := by
  cases page with
  | message typeName =>
    obtain ⟨type, ht, rfl⟩ := Element.resolve_message_eq_ok_iff.mp he
    exact Element.resolve_message_eq_ok_iff.mpr ⟨type, h.goType ht, rfl⟩
  | scalar goType stem => exact he

theorem exchange {method : Method} {shape : CallShape} {exchange : Exchange} (h : c.Extends d)
    (he : Exchange.Resolved c method shape exchange) : Exchange.Resolved d method shape exchange := by
  cases he with
  | unary hreq hne hres => exact .unary (h.goType hreq) hne (h.goType hres)
  | acknowledged hreq he => exact .acknowledged (h.goType hreq) he
  | longRunning hreq hop => exact .longRunning (h.goType hreq) (h.goType hop)
  | serverStream hreq => exact .serverStream (h.goType hreq)
  | clientStream => exact .clientStream
  | bidiStream => exact .bidiStream
  | paged hpage hreq hres helem =>
    exact .paged hpage (h.goType hreq) (h.goType hres) (h.element helem)

theorem resolvedCall {serviceName : String} {method : Method} {call : Call} (h : c.Extends d)
    (hdeclared : (c.elements.get? (memberName serviceName method.name)).isSome)
    (hc : Client.ResolvedCall c serviceName method call) :
    Client.ResolvedCall d serviceName method call := by
  obtain ⟨hmethod, hdoc, shape, hshape, he⟩ := hc
  refine ⟨hmethod, ?_, shape, h.shapeOf hshape, ?_⟩
  · rw [hdoc, h.comments _ hdeclared]
  · exact Exchange.resolve_of_resolved (h.exchange (Exchange.resolved_of_resolve he))

theorem resolved {options : Options} {file : File} {service : Service} {client : Client}
    (h : c.Extends d)
    (hservice : (c.elements.get? (service.fullName file)).isSome)
    (hmethods : ∀ method ∈ service.methods,
      (c.elements.get? (memberName (service.fullName file) method.name)).isSome)
    (hc : Client.Resolved c options file service client) :
    Client.Resolved d options file service client where
  service_eq := hc.service_eq
  fullName_eq := hc.fullName_eq
  stem_eq := hc.stem_eq
  host_eq := hc.host_eq
  stub_eq := hc.stub_eq
  doc_eq := by rw [hc.doc_eq, h.comments _ hservice]
  calls_eq := by
    refine List.Forall₂.imp ?_ ((List.forall₂_and_left _ _).mpr ⟨hmethods, hc.calls_eq⟩)
    rintro method call ⟨hm, hcall⟩
    exact h.resolvedCall hm hcall

end Catalog.Extends

namespace Catalog

variable {files others : List File} {file : File} {name : String}

theorem mem_of_at? {α : Type} {items : List α} {position : Int} {item : α}
    (h : at? items position = some item) : item ∈ items := by
  unfold at? at h
  split at h
  · cases h
  · exact List.mem_of_getElem? h

/-- A comment stands at a service or method of its own file. -/
theorem mem_of_target? {path : List Int32} (h : target? file path = some name) :
    name ∈ file.declarations.map Prod.fst := by
  unfold target? at h
  split at h
  · obtain ⟨service, hs, rfl⟩ := Option.map_eq_some_iff.mp h
    exact List.mem_map_of_mem (File.service_mem_declarations (mem_of_at? hs))
  · obtain ⟨service, hs, h⟩ := Option.bind_eq_some_iff.mp h
    obtain ⟨method, hm, h⟩ := Option.bind_eq_some_iff.mp h
    cases h
    exact List.mem_map_of_mem (File.method_mem_declarations (mem_of_at? hs) (mem_of_at? hm))
  · cases h

theorem mem_of_comments? (h : name ∈ (comments? file).map Prod.fst) :
    name ∈ file.declarations.map Prod.fst := by
  obtain ⟨⟨_, comment⟩, hc, rfl⟩ := List.mem_map.mp h
  obtain ⟨location, _, h⟩ := List.mem_filterMap.mp hc
  obtain ⟨_, _, h⟩ := Option.bind_eq_some_iff.mp h
  obtain ⟨_, ht, h⟩ := Option.bind_eq_some_iff.mp h
  cases h
  exact mem_of_target? ht

theorem lookup_comments_eq_none {others : List File}
    (h : name ∉ others.flatMap (·.declarations.map Prod.fst)) :
    (others.flatMap comments?).reverse.lookup name = none := by
  rw [← Option.not_isSome_iff_eq_none, Table.isSome_lookup_iff, List.map_reverse, List.mem_reverse,
    List.map_flatMap]
  intro hm
  obtain ⟨other, ho, hm⟩ := List.mem_flatMap.mp hm
  exact h (List.mem_flatMap.mpr ⟨other, ho, mem_of_comments? hm⟩)

/-- Where no full name is declared twice, comments on an element come from its own file. -/
theorem comment?_of_declared (h : (files.flatMap (·.declarations.map Prod.fst)).Nodup)
    (hf : file ∈ files) (hn : name ∈ file.declarations.map Prod.fst) :
    (ofFiles files).comment? name = (comments? file).reverse.lookup name := by
  obtain ⟨before, after, rfl⟩ := List.append_of_mem hf
  rw [List.flatMap_append, List.flatMap_cons, List.nodup_append', List.nodup_append'] at h
  obtain ⟨_, ⟨_, _, hafter⟩, hbefore⟩ := h
  have hb := lookup_comments_eq_none fun hm => hbefore hm (List.mem_append_left _ hn)
  have ha := lookup_comments_eq_none fun hm => hafter hn hm
  rw [comment?_ofFiles, List.flatMap_append, List.flatMap_cons, List.reverse_append,
    List.reverse_append, List.lookup_append, List.lookup_append, ha, hb]
  simp

/-- Files that declare no name twice, whatever their order, find what some of them find alone. -/
theorem extends_ofFiles (hnames : (others.map (·.name)).Nodup)
    (hothers : (others.flatMap (·.declarations.map Prod.fst)).Nodup)
    (hfiles : (files.flatMap (·.declarations.map Prod.fst)).Nodup) (hsub : files ⊆ others) :
    (ofFiles files).Extends (ofFiles others) where
  files name file hf := by
    obtain ⟨hm, hn⟩ := mem_of_file? hf
    exact (file?_iff_of_nodup hnames).mpr ⟨hsub hm, hn⟩
  elements name declaration hd := by
    obtain ⟨hf, hm⟩ := mem_of_get?_elements hd
    exact (get?_elements_iff_of_nodup hothers).mpr ⟨hsub hf, hm⟩
  comments name hd := by
    obtain ⟨file, hf, node, hm⟩ := isSome_get?_elements_iff.mp hd
    have hn := List.mem_map_of_mem (f := Prod.fst) hm
    rw [comment?_of_declared hothers (hsub hf) hn, comment?_of_declared hfiles hf hn]

end Catalog

end ClientGen
