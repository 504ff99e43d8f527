import ClientGen.Proofs.Client.Identifiers
import ClientGen.Proofs.Run.FileNames

namespace ClientGen

open Schema Client

def Output.items (output : Output) : List Item :=
  output.files.flatMap fun file => Item.ofText file.content

namespace Run

variable {files : List File} {options : Options} {names before : List String} {clients : List Client}
  {client : Client}

/-- Types that all have some method have each of theirs once just when no type is listed twice and
none lists a method twice. -/
theorem nodup_methods_iff {α : Type} (xs : List α) (receiver : α → String) (methods : α → List String)
    (shared : String) (hshared : ∀ x ∈ xs, shared ∈ methods x) :
    (xs.flatMap fun x => (methods x).map (Prod.mk (receiver x))).Nodup ↔
      (xs.map receiver).Nodup ∧ ∀ x ∈ xs, (methods x).Nodup := by
  have hdisjoint {x y : α} (hx : x ∈ xs) (hy : y ∈ xs) :
    ((methods x).map (Prod.mk (receiver x))).Disjoint
      ((methods y).map (Prod.mk (receiver y))) ↔ receiver x ≠ receiver y := by
    constructor
    · intro h heq
      have hmem := List.mem_map_of_mem (f := Prod.mk (receiver y)) (hshared y hy)
      rw [← heq] at hmem
      exact h (List.mem_map_of_mem (hshared x hx)) (heq ▸ hmem)
    · rintro hne pair hx hy
      obtain ⟨_, _, rfl⟩ := List.mem_map.mp hx
      obtain ⟨_, _, heq⟩ := List.mem_map.mp hy
      exact hne (congrArg Prod.fst heq).symm
  have hinner (x : α) : ((methods x).map (Prod.mk (receiver x))).Nodup ↔ (methods x).Nodup :=
    List.nodup_map_iff fun _ _ h => congrArg Prod.snd h
  have hpairs :
    xs.Pairwise (Function.onFun List.Disjoint fun x => (methods x).map (Prod.mk (receiver x))) ↔
      (xs.map receiver).Nodup := by
    rw [List.Nodup, List.pairwise_map]
    exact List.Pairwise.iff_of_mem hdisjoint
  rw [List.nodup_flatMap, hpairs, and_comm]
  simp only [hinner]

theorem spelled_of_run (hfiles : ∀ file ∈ files, file.HasNames)
    (h : Run.clients (.ofFiles files) options names = .ok clients) (hc : client ∈ clients) :
    client.Spelled := by
  obtain ⟨_, _, file, hf, service, hs, hr⟩ := exists_resolved h hc
  exact hr.spelled (hr.named hfiles (Catalog.mem_of_file? hf).1 hs)

theorem ofText_of_run (hfiles : ∀ file ∈ files, file.HasNames) (hpkg : Text.IsName options.pkgName)
    (h : Run.clients (.ofFiles files) options names = .ok clients) (hc : client ∈ clients)
    (before : List String) :
    Item.ofText (client.outputFile options before).content =
      client.ownItems options ++ (newElements before client.elements).flatMap Element.items := by
  obtain ⟨_, _, _, _, _, _, hr⟩ := exists_resolved h hc
  rw [← hr.items_eq]
  exact (spelled_of_run hfiles h hc).ofText_fileDeclaring hpkg (newElements_sublist _ _).subset

theorem exists_mem_of_mem_outputFiles {output : OutputFile}
    (h : output ∈ outputFiles options before clients) :
    ∃ client ∈ clients, ∃ before, output = client.outputFile options before := by
  induction clients generalizing before with
  | nil => cases h
  | cons client clients ih =>
    rw [outputFiles, List.mem_cons] at h
    obtain h | h := h
    · exact ⟨client, List.mem_cons_self, before, h⟩
    · obtain ⟨other, ho, hother⟩ := ih h
      exact ⟨other, List.mem_cons_of_mem _ ho, hother⟩

/-- Files declare what their clients do, and each iterator once. -/
theorem perm_items_outputFiles
    (h : ∀ client ∈ clients, ∀ before, Item.ofText (client.outputFile options before).content =
      client.ownItems options ++ (newElements before client.elements).flatMap Element.items) :
    ((outputFiles options before clients).flatMap fun file => Item.ofText file.content).Perm
      (clients.flatMap (ownItems options) ++
        (newElements before (clients.flatMap elements)).flatMap Element.items) := by
  induction clients generalizing before with
  | nil => exact .nil
  | cons client clients ih =>
    rw [List.forall_mem_cons] at h
    rw [outputFiles, List.flatMap_cons, h.1, List.flatMap_cons, List.flatMap_cons, newElements_append,
      List.flatMap_append, List.append_assoc, List.append_assoc]
    refine .append_left _ ?_
    -- the iterators of the first file change places with what the other clients declare
    exact ((ih h.2).append_left _).trans (List.perm_append_comm_assoc _ _ _)

theorem exists_iterator_eq_of_run (h : Run.clients (.ofFiles files) options names = .ok clients)
    {element : Element} (he : element ∈ declared clients) :
    ∃ stem, element.iterator = stem ++ "Iterator" := by
  obtain ⟨client, hc, he⟩ := List.mem_flatMap.mp ((declared_sublist clients).subset he)
  obtain ⟨_, _, _, _, _, _, hr⟩ := exists_resolved h hc
  exact hr.exists_iterator_eq he

theorem nodup_iterators_declared (clients : List Client) : (iterators (declared clients)).Nodup :=
  nodup_iterators_newElements _ _

theorem perm_items (hfiles : ∀ file ∈ files, file.HasNames) (hpkg : Text.IsName options.pkgName)
    (h : Run.clients (.ofFiles files) options names = .ok clients) (hne : clients ≠ []) :
    (generateWith files names options).items.Perm
      (clients.flatMap (ownItems options) ++ (declared clients).flatMap Element.items ++
        [.package options.pkgName, .global "insertMetadata", .global "versionGo",
          .global "versionClient"]) := by
  have houtput : generateWith files names options = { files := packageFiles options clients } := by
    rw [generateWith, h]
  rw [houtput, Output.items, packageFiles, if_neg (by simpa using hne), List.flatMap_append,
    List.flatMap_singleton, Doc.ofText_outputFile hpkg, declared]
  exact .append_right _ (perm_items_outputFiles fun client hc before =>
    ofText_of_run hfiles hpkg h hc before)

theorem disjoint_globals_iterators (h : Run.clients (.ofFiles files) options names = .ok clients) :
    (clients.flatMap globals).Disjoint (iterators (declared clients)) := by
  intro name hg hi
  obtain ⟨client, _, hg⟩ := List.mem_flatMap.mp hg
  obtain ⟨element, he, rfl⟩ := List.mem_map.mp hi
  obtain ⟨stem, hstem⟩ := exists_iterator_eq_of_run h he
  rw [hstem] at hg
  exact iterator_notMem_globals stem hg

theorem disjoint_iterators_doc (h : Run.clients (.ofFiles files) options names = .ok clients) :
    (iterators (declared clients)).Disjoint ["insertMetadata", "versionGo", "versionClient"] := by
  intro name hi hd
  obtain ⟨element, he, rfl⟩ := List.mem_map.mp hi
  obtain ⟨stem, hstem⟩ := exists_iterator_eq_of_run h he
  have hends : ∀ name ∈ ["insertMetadata", "versionGo", "versionClient"],
      ¬ "Iterator".toList <:+ name.toList := by
    decide
  refine hends _ hd ⟨stem.toList, ?_⟩
  rw [hstem, String.toList_append]

/-- The names of clients, of iterators and of what clients share end differently, up to one name. -/
theorem nodup_globals_iff (h : Run.clients (.ofFiles files) options names = .ok clients) :
    (clients.flatMap globals ++ iterators (declared clients) ++
        ["insertMetadata", "versionGo", "versionClient"]).Nodup ↔
      (clients.map (·.stem)).Nodup ∧
        (∀ client ∈ clients, ∀ other ∈ clients, ¬ Extends client.stem other.stem) ∧
          ∀ client ∈ clients, client.stem ≠ "version" := by
  have hiterators := disjoint_globals_iterators h
  have hdocIterators := disjoint_iterators_doc h
  have hdoc : (clients.flatMap globals).Disjoint ["insertMetadata", "versionGo", "versionClient"] ↔
      ∀ client ∈ clients, client.stem ≠ "version" := by
    simp only [← disjoint_doc_iff]
    exact ⟨fun hd client hc name hg => hd (List.mem_flatMap_of_mem hc hg), fun hd name hg => by
      obtain ⟨client, hc, hg⟩ := List.mem_flatMap.mp hg
      exact hd client hc hg⟩
  rw [List.nodup_append', List.nodup_append', nodup_flatMap_globals_iff,
    List.disjoint_append_left, hdoc]
  have hnodup := nodup_iterators_declared clients
  have hdocNodup : ["insertMetadata", "versionGo", "versionClient"].Nodup := by decide
  tauto

theorem nodup_members_iff (h : Run.clients (.ofFiles files) options names = .ok clients) :
    ((clients.flatMap fun client => (members client.service).map (Prod.mk client.typeName)) ++
        (declared clients).flatMap fun element =>
          ["PageInfo", "Next", "bufLen", "takeBuf"].map (Prod.mk element.iterator)).Nodup ↔
      (clients.map (·.stem)).Nodup ∧ ∀ client ∈ clients, (members client.service).Nodup := by
  have htypes : (clients.map typeName).Nodup ↔ (clients.map (·.stem)).Nodup := by
    have hstems : clients.map typeName = (clients.map (·.stem)).map (· ++ "Client") := by
      rw [List.map_map]
      rfl
    rw [hstems, List.nodup_map_iff fun _ _ h => (String.append_left_inj _).mp h]
  have hclients := nodup_methods_iff clients typeName (fun client => members client.service)
    "Connection" fun _ _ => List.mem_cons_self
  have hiterators := nodup_methods_iff (declared clients) (·.iterator)
    (fun _ => ["PageInfo", "Next", "bufLen", "takeBuf"]) "Next" fun _ _ => by decide
  have hmethods : ["PageInfo", "Next", "bufLen", "takeBuf"].Nodup := by decide
  have hdisjoint : (clients.flatMap fun client => (members client.service).map
      (Prod.mk client.typeName)).Disjoint ((declared clients).flatMap fun element =>
        ["PageInfo", "Next", "bufLen", "takeBuf"].map (Prod.mk element.iterator)) := by
    intro pair hc hi
    obtain ⟨client, _, hc⟩ := List.mem_flatMap.mp hc
    obtain ⟨element, he, hi⟩ := List.mem_flatMap.mp hi
    obtain ⟨_, _, rfl⟩ := List.mem_map.mp hc
    obtain ⟨_, _, hreceiver⟩ := List.mem_map.mp hi
    obtain ⟨stem, hstem⟩ := exists_iterator_eq_of_run h he
    have htype : client.stem ++ "Client" = stem ++ "Iterator" :=
      (congrArg Prod.fst hreceiver).symm.trans hstem
    exact absurd (suffix_or_suffix htype) (by decide)
  rw [List.nodup_append', hclients, hiterators, htypes]
  have hnodup := nodup_iterators_declared clients
  tauto

def stems (files : List File) (names : List String) (options : Options) : List String :=
  (requested files names).map fun service => Naming.clientStem service.name options.pkgName

theorem map_stem_clients (h : Run.clients (.ofFiles files) options names = .ok clients) :
    clients.map (·.stem) = stems files names options := by
  rw [stems, ← map_service_clients h, List.map_map]
  refine List.map_congr_left fun client hc => ?_
  obtain ⟨_, _, _, _, _, _, hr⟩ := exists_resolved h hc
  rw [hr.stem_eq, ← hr.service_eq]
  rfl

theorem package_of_mem_files (hfiles : ∀ file ∈ files, file.HasNames)
    (hpkg : Text.IsName options.pkgName)
    (h : Run.clients (.ofFiles files) options names = .ok clients) {output : OutputFile}
    (ho : output ∈ packageFiles options clients) :
    (Item.ofText output.content).filterMap Item.package? = [options.pkgName] := by
  unfold packageFiles at ho
  split at ho
  · cases ho
  · rw [List.mem_append, List.mem_singleton] at ho
    obtain ho | rfl := ho
    · obtain ⟨client, hc, before, rfl⟩ := exists_mem_of_mem_outputFiles ho
      rw [ofText_of_run hfiles hpkg h hc, List.filterMap_append, filterMap_package_ownItems,
        filterMap_package_items]
      rfl
    · rw [Doc.ofText_outputFile hpkg]
      rfl

theorem items_eq_nil (h : Run.clients (.ofFiles files) options names = .ok []) :
    (generateWith files names options).items = [] ∧ requested files names = [] := by
  refine ⟨?_, (map_service_clients h).symm⟩
  rw [generateWith, h]
  rfl

/-- The names that a run declares: those of the clients, of the iterators and of what clients
share. -/
theorem perm_globals (hfiles : ∀ file ∈ files, file.HasNames) (hpkg : Text.IsName options.pkgName)
    (h : Run.clients (.ofFiles files) options names = .ok clients) (hne : clients ≠ []) :
    ((generateWith files names options).items.filterMap Item.global?).Perm
      (clients.flatMap globals ++ iterators (declared clients) ++
        ["insertMetadata", "versionGo", "versionClient"]) := by
  refine ((perm_items hfiles hpkg h hne).filterMap Item.global?).trans (.of_eq ?_)
  rw [List.filterMap_append, List.filterMap_append, List.filterMap_flatMap, filterMap_global_items]
  simp only [filterMap_global_ownItems]
  rfl

theorem nodup_global_items_iff (hfiles : ∀ file ∈ files, file.HasNames)
    (hpkg : Text.IsName options.pkgName)
    (h : Run.clients (.ofFiles files) options names = .ok clients) :
    ((generateWith files names options).items.filterMap Item.global?).Nodup ↔
      (stems files names options).Nodup ∧
        (∀ s ∈ stems files names options, ∀ t ∈ stems files names options, ¬ Extends s t) ∧
          "version" ∉ stems files names options := by
  by_cases hne : clients = []
  · subst hne
    obtain ⟨hitems, hrequested⟩ := items_eq_nil h
    simp [hitems, stems, hrequested]
  · have hversion : "version" ∉ clients.map (·.stem) ↔ ∀ client ∈ clients,
        client.stem ≠ "version" := by
      simp [eq_comm]
    rw [(perm_globals hfiles hpkg h hne).nodup_iff, nodup_globals_iff h,
      ← map_stem_clients h, hversion]
    simp only [List.forall_mem_map]

theorem nodup_method_items_iff (hfiles : ∀ file ∈ files, file.HasNames)
    (hpkg : Text.IsName options.pkgName)
    (h : Run.clients (.ofFiles files) options names = .ok clients) :
    ((generateWith files names options).items.filterMap Item.method?).Nodup ↔
      (stems files names options).Nodup ∧
        ∀ service ∈ requested files names, (members service).Nodup := by
  by_cases hne : clients = []
  · subst hne
    obtain ⟨hitems, hrequested⟩ := items_eq_nil h
    simp [hitems, stems, hrequested]
  · have hdoc : [Item.package options.pkgName, .global "insertMetadata", .global "versionGo",
        .global "versionClient"].filterMap Item.method? = [] := rfl
    rw [((perm_items hfiles hpkg h hne).filterMap Item.method?).nodup_iff, List.filterMap_append,
      List.filterMap_append, List.filterMap_flatMap, filterMap_method_items, hdoc, List.append_nil,
      ← map_stem_clients h, ← map_service_clients h]
    simp only [filterMap_method_ownItems, List.forall_mem_map]
    exact nodup_members_iff h

/-- The files of a run belong to one package. Each name is declared once just when the stems of the
services differ, none of them is another one after a word, and none is that of `versionClient`. Each
type gets each method once just when the stems differ and no service has two methods of one name, or
a method named as one that every client has. -/
theorem nodup_identifiers_iff (hfiles : ∀ file ∈ files, file.HasNames)
    (hpkg : Text.IsName options.pkgName) (h : (generateWith files names options).error = none) :
    (∀ output ∈ (generateWith files names options).files,
        (Item.ofText output.content).filterMap Item.package? = [options.pkgName]) ∧
      (((generateWith files names options).items.filterMap Item.global?).Nodup ↔
        (stems files names options).Nodup ∧
          (∀ s ∈ stems files names options, ∀ t ∈ stems files names options, ¬ Extends s t) ∧
            "version" ∉ stems files names options) ∧
      (((generateWith files names options).items.filterMap Item.method?).Nodup ↔
        (stems files names options).Nodup ∧
          ∀ service ∈ requested files names, (members service).Nodup) := by
  obtain ⟨clients, hrun⟩ := error_generateWith_eq_none_iff.mp h
  refine ⟨fun output ho => ?_, nodup_global_items_iff hfiles hpkg hrun,
    nodup_method_items_iff hfiles hpkg hrun⟩
  rw [generateWith, hrun] at ho
  exact package_of_mem_files hfiles hpkg hrun ho

theorem nodup_identifiers_depot :
    (∀ file ∈ depotFiles "Orders", file.HasNames) ∧
      (generateWith (depotFiles "Orders") ["depot.proto"] depotOptions).error = none ∧
      stems (depotFiles "Orders") ["depot.proto"] depotOptions = ["StockAPI", "Orders"] ∧
      ((generateWith (depotFiles "Orders") ["depot.proto"] depotOptions).items.filterMap
        Item.global?).Nodup ∧
      ((generateWith (depotFiles "Orders") ["depot.proto"] depotOptions).items.filterMap
        Item.method?).Nodup := by
  have hfiles : ∀ file ∈ depotFiles "Orders", file.HasNames := by decide +kernel
  have hok : (generateWith (depotFiles "Orders") ["depot.proto"] depotOptions).error = none := by
    decide +kernel
  have hstems :
      stems (depotFiles "Orders") ["depot.proto"] depotOptions = ["StockAPI", "Orders"] := by
    decide +kernel
  obtain ⟨_, hglobals, hmethods⟩ := nodup_identifiers_iff hfiles (by decide +kernel) hok
  rw [hstems] at hglobals hmethods
  exact ⟨hfiles, hok, hstems, hglobals.mpr (by decide), hmethods.mpr (by decide +kernel)⟩

/-- The clients of two services whose files have different names can have the same name. -/
theorem identifiers_not_nodup :
    (∀ file ∈ depotFiles "StockAPIService", file.HasNames) ∧
      (generateWith (depotFiles "StockAPIService") ["depot.proto"] depotOptions).error = none ∧
      ((depotFiles "StockAPIService").flatMap fun file => file.services.map (·.fullName file)).Nodup ∧
      (∀ service ∈ requested (depotFiles "StockAPIService") ["depot.proto"],
        (service.methods.map (·.name)).Nodup) ∧
      ¬ ((generateWith (depotFiles "StockAPIService") ["depot.proto"] depotOptions).items.filterMap
        Item.global?).Nodup ∧
      ¬ ((generateWith (depotFiles "StockAPIService") ["depot.proto"] depotOptions).items.filterMap
        Item.method?).Nodup := by
  have hfiles : ∀ file ∈ depotFiles "StockAPIService", file.HasNames := by decide +kernel
  have hok :
      (generateWith (depotFiles "StockAPIService") ["depot.proto"] depotOptions).error = none := by
    decide +kernel
  have hstems : stems (depotFiles "StockAPIService") ["depot.proto"] depotOptions =
      ["StockAPI", "StockAPI"] := by
    decide +kernel
  have hpkg : Text.IsName depotOptions.pkgName := by decide +kernel
  obtain ⟨clients, hrun⟩ := error_generateWith_eq_none_iff.mp hok
  refine ⟨hfiles, hok, by decide, by decide +kernel, ?_, ?_⟩
  · rw [nodup_global_items_iff hfiles hpkg hrun, hstems]
    decide
  · rw [nodup_method_items_iff hfiles hpkg hrun, hstems]
    exact fun h => absurd h.1 (by decide)

end Run

end ClientGen
