import ClientGen.Proofs.Catalog.Last

namespace ClientGen

open Schema

namespace Schema.File

def callNames (file : File) : List String :=
  file.services.flatMap fun service =>
    service.methods.map (fun method => memberName (service.fullName file) method.name) ++
      [service.fullName file]

/-- The paths to the services of a file and to their methods, and the full names of what they lead
to. -/
inductive PathTo (file : File) : List Int → String → Prop
  | service {s : Nat} {service : Service} (hs : file.services[s]? = some service) :
      PathTo file [6, s] (service.fullName file)
  | method {s m : Nat} {service : Service} {method : Method} (hs : file.services[s]? = some service)
      (hm : service.methods[m]? = some method) :
      PathTo file [6, s, 2, m] (memberName (service.fullName file) method.name)

def CommentAt (file : File) (path : List Int) (i : Nat) (text : String) : Prop :=
  ∃ location, file.locations[i]? = some location ∧ location.path.map Int32.toInt = path ∧
    location.leadingComments = some text

/-- Where an element stands among the names of calls. A service comes after its methods. -/
def callPlace : List Int → Place
  | [6, s] => [s.toNat, 1]
  | [6, s, 2, m] => [s.toNat, 0, m.toNat]
  | _ => []

theorem PathTo.callPlace_inj {file other : File} {path path' : List Int} {name name' : String}
    (h : file.PathTo path name) (ho : other.PathTo path' name')
    (he : callPlace path = callPlace path') : path = path' := by
  cases h <;> cases ho <;> simp_all [callPlace]

theorem callNames_enumerates (file : File) :
    Enumerates (fun place name => ∃ path, file.PathTo path name ∧ place = callPlace path)
      file.callNames := by
  have heq : file.callNames = file.services.flatMap fun service =>
      (serviceDeclarations file.scope service).map Prod.fst := by
    simp [callNames, serviceDeclarations, Service.fullName, Function.comp_def]
  rw [heq]
  refine (Enumerates.flatMap file.services fun service _ =>
    (service.enumerates file.scope).map_entries Prod.fst).congr fun place name => ?_
  constructor
  · rintro ⟨s, service, _, hs, rfl, ⟨_, node⟩, ⟨names, hn, rfl⟩, rfl⟩
    cases hn with
    | method hm => exact ⟨_, .method hs hm, rfl⟩
    | itself => exact ⟨_, .service hs, rfl⟩
  · rintro ⟨path, hp, rfl⟩
    cases hp with
    | @service s service hs =>
      exact ⟨s, service, [1], hs, rfl, (_, .service service), ⟨_, .itself, rfl⟩, rfl⟩
    | @method s m service method hs hm =>
      exact ⟨s, service, [0, m], hs, rfl, (_, .method method), ⟨_, .method hm, rfl⟩, rfl⟩

theorem PathTo.name_mem {file : File} {path : List Int} {name : String} (h : file.PathTo path name) :
    name ∈ file.callNames :=
  (callNames_enumerates file).mem_iff.mpr ⟨callPlace path, path, h, rfl⟩

end Schema.File

namespace Catalog

variable {files : List File} {file other : File} {name text : String} {path path' : List Int}

theorem at?_eq_some_iff {α : Type} {items : List α} {position : Int} {item : α} :
    at? items position = some item ↔ ∃ n : Nat, position = n ∧ items[n]? = some item := by
  unfold at?
  split
  case isTrue hneg =>
    constructor
    · intro h
      cases h
    · rintro ⟨n, rfl, _⟩
      omega
  case isFalse hneg =>
    constructor
    · exact fun h => ⟨position.toNat, by omega, h⟩
    · rintro ⟨n, rfl, h⟩
      exact h

theorem target?_eq_some_iff {path : List Int32} :
    target? file path = some name ↔ file.PathTo (path.map Int32.toInt) name := by
  unfold target?
  generalize path.map Int32.toInt = steps
  constructor
  · intro h
    split at h
    · obtain ⟨service, hs, rfl⟩ := Option.map_eq_some_iff.mp h
      obtain ⟨s, rfl, hs⟩ := at?_eq_some_iff.mp hs
      exact .service hs
    · obtain ⟨service, hs, h⟩ := Option.bind_eq_some_iff.mp h
      obtain ⟨method, hm, hname⟩ := Option.bind_eq_some_iff.mp h
      obtain ⟨s, rfl, hs⟩ := at?_eq_some_iff.mp hs
      obtain ⟨m, rfl, hm⟩ := at?_eq_some_iff.mp hm
      cases hname
      exact .method hs hm
    · cases h
  · intro h
    cases h with
    | service hs => simp [at?_eq_some_iff.mpr ⟨_, rfl, hs⟩]
    | method hs hm =>
      simp [at?_eq_some_iff.mpr ⟨_, rfl, hs⟩, at?_eq_some_iff.mpr ⟨_, rfl, hm⟩]

theorem comments_enumerates (file : File) :
    Enumerates (fun place (entry : String × String) => ∃ i path, place = [i] ∧
        file.PathTo path entry.1 ∧ file.CommentAt path i entry.2)
      (comments? file) := by
  refine (Enumerates.filterMap _ file.locations).congr fun place entry => ?_
  obtain ⟨name, text⟩ := entry
  constructor
  · rintro ⟨i, location, hl, rfl, h⟩
    obtain ⟨comment, hc, h⟩ := Option.bind_eq_some_iff.mp h
    obtain ⟨target, ht, h⟩ := Option.bind_eq_some_iff.mp h
    cases h
    exact ⟨i, _, rfl, target?_eq_some_iff.mp ht, location, hl, rfl, hc⟩
  · rintro ⟨i, _, rfl, hp, location, hl, rfl, hc⟩
    refine ⟨i, location, hl, rfl, ?_⟩
    simp [hc, target?_eq_some_iff.mpr hp]

/-- The comments of files, by place. -/
theorem commentsOf_enumerates (files : List File) :
    Enumerates (fun place (entry : String × String) => ∃ k file i path, files[k]? = some file ∧
        place = [k, i] ∧ file.PathTo path entry.1 ∧ file.CommentAt path i entry.2)
      (files.flatMap comments?) := by
  refine (Enumerates.flatMap files fun file _ => comments_enumerates file).congr fun place entry => ?_
  constructor
  · rintro ⟨k, file, _, hk, rfl, i, path, rfl, hp, hc⟩
    exact ⟨k, file, i, path, hk, rfl, hp, hc⟩
  · rintro ⟨k, file, i, path, hk, rfl, hp, hc⟩
    exact ⟨k, file, [i], hk, rfl, i, path, rfl, hp, hc⟩

theorem callNamesOf_enumerates (files : List File) :
    Enumerates (fun place name => ∃ (k : Nat) (file : File) (path : List Int), files[k]? = some file ∧
        file.PathTo path name ∧ place = k :: File.callPlace path)
      (files.flatMap File.callNames) := by
  refine (Enumerates.flatMap files fun file _ => file.callNames_enumerates).congr fun place name => ?_
  constructor
  · rintro ⟨k, file, _, hk, rfl, path, hp, rfl⟩
    exact ⟨k, file, path, hk, hp, rfl⟩
  · rintro ⟨k, file, path, hk, hp, rfl⟩
    exact ⟨k, file, _, hk, rfl, path, hp, rfl⟩

theorem path_unique (hnames : (files.flatMap File.callNames).Nodup) {k l : Nat}
    (hk : files[k]? = some file) (hp : file.PathTo path name) (hl : files[l]? = some other)
    (ho : other.PathTo path' name) : k = l ∧ path = path' := by
  have hplace := (callNamesOf_enumerates files).place_unique hnames ⟨k, file, path, hk, hp, rfl⟩
    ⟨l, other, path', hl, ho, rfl⟩
  obtain ⟨rfl, he⟩ := List.cons_eq_cons.mp hplace
  exact ⟨rfl, hp.callPlace_inj ho he⟩

theorem comment?_iff_last (hnames : (files.flatMap File.callNames).Nodup) (hf : file ∈ files)
    (hp : file.PathTo path name) :
    (ofFiles files).comment? name = some text ↔
      ∃ i, file.CommentAt path i text ∧ ∀ j other, file.CommentAt path j other → j ≤ i := by
  obtain ⟨k, hk⟩ := List.mem_iff_getElem?.mp hf
  rw [comment?_ofFiles, (commentsOf_enumerates files).lookup_reverse_iff]
  constructor
  · rintro ⟨_, ⟨l, owner, i, path', hl, rfl, ho, hc⟩, hlast⟩
    obtain ⟨rfl, rfl⟩ := path_unique hnames hk hp hl ho
    cases hk.symm.trans hl
    refine ⟨i, hc, fun j other hj => ?_⟩
    obtain he | hbefore := hlast [k, j] other ⟨k, file, j, path, hk, rfl, hp, hj⟩
    · cases he
      exact le_rfl
    · exact ((List.lex_singleton_iff _ _).mp (List.lex_cons_iff.mp hbefore)).le
  · rintro ⟨i, hc, hlast⟩
    refine ⟨[k, i], ⟨k, file, i, path, hk, rfl, hp, hc⟩, ?_⟩
    rintro _ other ⟨l, owner, j, path', hl, rfl, ho, hj⟩
    obtain ⟨rfl, rfl⟩ := path_unique hnames hk hp hl ho
    cases hk.symm.trans hl
    obtain rfl | hlt := (hlast j other hj).eq_or_lt
    · exact .inl rfl
    · exact .inr (.cons (.rel hlt))

theorem comment?_eq_none_iff :
    (ofFiles files).comment? name = none ↔
      ∀ file ∈ files, ∀ path, file.PathTo path name → ∀ i text, ¬file.CommentAt path i text := by
  rw [comment?_ofFiles, ← Option.not_isSome_iff_eq_none, Table.isSome_lookup_iff, List.map_reverse,
    List.mem_reverse]
  simp only [List.mem_map, Prod.exists, exists_and_right, exists_eq_right,
    (commentsOf_enumerates files).mem_iff]
  constructor
  · intro h file hf path hp i text hc
    obtain ⟨k, hk⟩ := List.mem_iff_getElem?.mp hf
    exact h ⟨text, [k, i], k, file, i, path, hk, rfl, hp, hc⟩
  · rintro h ⟨text, _, k, file, i, path, hk, rfl, hp, hc⟩
    exact h file (List.mem_of_getElem? hk) path hp i text hc

/-- A service or method has the last comment that stands at its path, and nothing else has a
comment. -/
theorem comment?_gives_last {files : List File} (hnames : (files.flatMap File.callNames).Nodup) :
    (∀ file ∈ files, ∀ path name, file.PathTo path name →
      (∀ text, (ofFiles files).comment? name = some text ↔
        ∃ i, file.CommentAt path i text ∧ ∀ j other, file.CommentAt path j other → j ≤ i) ∧
      ((ofFiles files).comment? name = none ↔ ∀ i text, ¬file.CommentAt path i text)) ∧
    ∀ name, name ∉ files.flatMap File.callNames → (ofFiles files).comment? name = none := by
  refine ⟨fun file hf path name hp => ⟨fun text => comment?_iff_last hnames hf hp, ?_⟩,
    fun name hname => ?_⟩
  · rw [comment?_eq_none_iff]
    constructor
    · exact fun h => h file hf path hp
    · intro h other ho path' hp'
      obtain ⟨k, hk⟩ := List.mem_iff_getElem?.mp hf
      obtain ⟨l, hl⟩ := List.mem_iff_getElem?.mp ho
      obtain ⟨rfl, rfl⟩ := path_unique hnames hk hp hl hp'
      cases hk.symm.trans hl
      exact h
  · rw [comment?_eq_none_iff]
    intro file hf path hp
    exact absurd (List.mem_flatMap.mpr ⟨file, hf, hp.name_mem⟩) hname

def guideFile : File where
  name := "guide.proto"
  package := "guide"
  services := [{ name := "Guide", methods := [{ name := "GetTour" }, { name := "ListTours" }] }]
  locations := [
    { path := [6, 0], leadingComments := some "Plans tours." },
    { path := [6, 0, 2, 1], leadingComments := some "Lists tours." },
    { path := [6, 0], leadingComments := some "Plans and books tours." },
    { path := [6, 0] },
    { path := [6, -1], leadingComments := some "Stands before all services." },
    { path := [6, 0, 2, 2], leadingComments := some "Stands after all methods." },
    { path := [4, 0], leadingComments := some "Stands at a message." }]

def otherGuideFile : File where
  name := "other.proto"
  services := [{ name := "Guide" }]
  locations := [{ path := [6, 0], leadingComments := some "Has no tours." }]

theorem comment?_gives_last_guides :
    ([guideFile, otherGuideFile].flatMap File.callNames).Nodup ∧
      (ofFiles [guideFile, otherGuideFile]).comment? ".guide.Guide" = some "Plans and books tours." ∧
      (ofFiles [guideFile, otherGuideFile]).comment? ".guide.Guide.GetTour" = none ∧
      (ofFiles [guideFile, otherGuideFile]).comment? ".guide" = none := by
  have hnames : ([guideFile, otherGuideFile].flatMap File.callNames).Nodup := by decide
  obtain ⟨hcalls, hothers⟩ := comment?_gives_last hnames
  have hlast : ∀ j other, guideFile.CommentAt [6, 0] j other → j ≤ 2 := by
    rintro j other ⟨location, hl, hp, hc⟩
    match j with
    | 0 | 1 | 2 => decide
    | 3 => cases hl; cases hc
    | 4 | 5 | 6 => cases hl; exact absurd hp (by decide)
    | _ + 7 => cases hl
  have hnone : ∀ i text, ¬guideFile.CommentAt [6, 0, 2, 0] i text := by
    rintro i text ⟨location, hl, hp, hc⟩
    match i with
    | 0 | 1 | 2 | 3 | 4 | 5 | 6 => cases hl; exact absurd hp (by decide)
    | _ + 7 => cases hl
  have hguide : guideFile.PathTo [6, 0] ".guide.Guide" := @File.PathTo.service guideFile 0 _ rfl
  have htour : guideFile.PathTo [6, 0, 2, 0] ".guide.Guide.GetTour" :=
    @File.PathTo.method guideFile 0 0 _ _ rfl rfl
  refine ⟨hnames, ?_, ?_, hothers _ (by decide)⟩
  · exact ((hcalls guideFile (by simp) _ _ hguide).1 _).mpr ⟨2, ⟨_, rfl, rfl, rfl⟩, hlast⟩
  · exact (hcalls guideFile (by simp) _ _ htour).2.mpr hnone

end Catalog

end ClientGen
