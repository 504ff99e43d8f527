import ClientGen.Proofs.Client.IteratorItems

namespace ClientGen

open Text Code Emitter

namespace Emitter

variable {head : String} {parts : List Code}

theorem Tidy.rows_parens (h : Tidy parts.flatten) (hhead : IsLine 0 0 (head ++ "(")) :
    rows 0 (Code.parens head parts) =
      (head ++ "(").toList :: ((rows 0 parts.flatten).map deeper ++ [[')']]) := by
  have hline : levelAfter 0 [.line (head ++ "(")] = 0 :=
    levelAfter_of_levelAfter? (Tidy.line hhead).level_eq
  have hinner : levelAfter 1 parts.flatten = 1 :=
    levelAfter_of_levelAfter? (levelAfter?_succ h.level_eq)
  have henter : levelAfter 0 [.enter] = 1 := rfl
  have hleave : levelAfter 1 [.leave] = 0 := rfl
  have hlast : rows 0 [.line ")"] = [[')']] := by decide
  rw [Code.parens, rows, hline, rows, henter, Emitter.rows_append, hinner, rows, hleave, hlast,
    rows_succ h.level_eq, rows_line hhead]
  rfl

/-- Nothing between parentheses is declared at the left margin. -/
theorem Declares.parens (h : Tidy parts.flatten) (hhead : IsLine 0 0 (head ++ "("))
    (hnone : Item.ofLine? (head ++ "(").toList = none) : Declares (Code.parens head parts) [] := by
  have hrows := h.rows_parens hhead
  refine ⟨⟨?_, ?_⟩, ?_⟩
  · have hlast : levelAfter? 1 [.leave, .line ")"] = some 0 := by decide
    rw [Code.parens, levelAfter?, after?_line hhead, if_pos (Nat.zero_le _), Option.bind_some]
    change levelAfter? 1 _ = _
    rw [levelAfter?_append, levelAfter?_succ h.level_eq, Option.bind_some, hlast]
  · rw [hrows]
    intro row hr
    rw [List.mem_cons, List.mem_append, List.mem_map, List.mem_singleton] at hr
    obtain rfl | ⟨row, hr, rfl⟩ | rfl := hr
    · exact hhead.flat
    · exact Tidy.notMem_deeper (h.flat row hr)
    · decide
  · have hinner : ((rows 0 parts.flatten).map deeper).filterMap Item.ofLine? = [] := by
      rw [List.filterMap_eq_nil_iff]
      intro row hr
      obtain ⟨row, _, rfl⟩ := List.mem_map.mp hr
      exact Item.ofLine?_deeper row
    rw [hrows, List.filterMap_cons_none hnone, List.filterMap_append, hinner]
    rfl

end Emitter

namespace Header

variable {options : Options} {imports : ImportSet}

theorem newline_notMem_toString (n : Int) : '\n' ∉ (toString n).toList := by
  have hnat (n : Nat) : '\n' ∉ n.repr.toList := by
    intro hc
    rw [Nat.toList_repr] at hc
    exact absurd (Nat.isDigit_of_mem_toDigits (by decide) (by decide) hc) (by decide)
  cases n with
  | ofNat n => exact hnat n
  | negSucc n =>
    have hsign : toString (Int.negSucc n) = "-" ++ n.succ.repr := rfl
    rw [hsign, String.toList_append, List.mem_append, not_or]
    exact ⟨by decide, hnat n.succ⟩

theorem isLine_render {spec : ImportSpec} (h : spec.name = "" ∨ IsName spec.name) :
    IsLine 0 0 spec.render := by
  unfold ImportSpec.render
  split
  · exact (Front.ofQuoted spec.path).isLine (Front.ends_quoted _)
  · rename_i hne
    obtain hempty | hname := h
    · exact absurd (by rw [hempty]; rfl) hne
    · exact ((Front.ofName hname).literal (l := [' ']) (by decide)).last (newline_notMem_quoted _)
        (Front.ends_quoted _)

theorem declares_importBlock (h : ∀ spec ∈ imports.specs, spec.name = "" ∨ IsName spec.name) :
    Declares (importBlock imports) [] := by
  have hlines {specs : List ImportSpec} (hs : specs ⊆ imports.sorted) :
      Tidy (lines (specs.map ImportSpec.render)) := by
    refine .lines fun text ht => ?_
    obtain ⟨spec, hm, rfl⟩ := List.mem_map.mp ht
    exact isLine_render (h spec (mem_sorted.mp (hs hm)))
  have hblank (condition : Bool) : Tidy (Code.when condition [Code.blank]) := .when Tidy.blank.single
  have hparts (condition : Bool) := (hlines (List.take_subset imports.boundary _)).cons
    ((hblank condition).cons (hlines (List.drop_subset imports.boundary _)).single)
  have himport : IsLine 0 0 ("import " ++ "(") := (Front.ofList (by decide)).line (by decide)
  have hnone : Item.ofLine? ("import " ++ "(").toList = none := by decide
  have hparens (condition : Bool) := Declares.parens (hparts condition) himport hnone
  refine (Declares.when ((hparens _).cons Declares.blank.single)).of_eq ?_
  split <;> rfl

theorem declares_license : Declares license [] := by
  refine .lines ?_
  simp only [List.forall_mem_cons]
  refine ⟨?_, ?_, ?_, ?_, ?_, ?_, ?_, ?_, ?_, ?_, ?_, by simp⟩
  all_goals exact .literal (by decide)

theorem declares_copyright (year : Option Int32) : Declares (line (copyright year)) [] := by
  cases year with
  | none => exact .literal (by decide)
  | some year =>
    exact .remark ((Front.ofList (by decide)).append (newline_notMem_toString year.toInt)) (by decide)

/-- The header of a file declares the package. -/
theorem declares_code (doc : Option String) (hpkg : IsName options.pkgName)
    (himports : ∀ spec ∈ imports.specs, spec.name = "" ∨ IsName spec.name) :
    Declares (code options imports doc) [.package options.pkgName] := by
  have hpackage : Declares (line s!"package {options.pkgName}") [.package options.pkgName] := by
    refine (Declares.line ((Front.ofList (by decide)).last hpkg.newline_notMem hpkg.ends)).of_eq ?_
    rw [Item.ofLine?_package hpkg (by simp)]
    rfl
  have hdoc : Declares (doc.elim [] comment) [] := by
    cases doc with
    | none => exact .nil
    | some text => exact .comment text
  have hslashes : Declares (line "//") [] := .literal (by decide)
  have hgenerated : Declares (line "// Code generated by protoc-gen-go_gapic. DO NOT EDIT.") [] :=
    .literal (by decide)
  exact (declares_copyright _).cons (hslashes.cons (declares_license.cons (Declares.blank.cons
    (hgenerated.cons (Declares.blank.cons (hdoc.cons (hpackage.cons (Declares.blank.cons
      (declares_importBlock himports).single))))))))

end Header

namespace Doc

theorem declares_insertMetadata : Declares insertMetadata [.global "insertMetadata"] := by
  have hhead : Heads "func insertMetadata(ctx context.Context, mds ...metadata.MD) context.Context "
      (.global "insertMetadata") := by
    refine ⟨.brace (by decide), ?_⟩
    exact Item.ofLine?_global "func "
      "(ctx context.Context, mds ...metadata.MD) context.Context \x7b".toList
      (by decide) (.ofList (by decide)) (by simp [Item.isNamePart_of_mem]) (by simp)
  have hloops : Tidy (block "for _, md := range mds " [
      block "for k, v := range md " [line "out[k] = append(out[k], v...)"]]) :=
    .block (.brace (by decide)) (Tidy.block (.brace (by decide))
      (Tidy.literal (by decide)).single).single
  exact (Declares.block hhead ((Tidy.literal (by decide)).cons
    ((Tidy.literal (by decide)).cons (hloops.cons
    (Tidy.literal (by decide)).single)))).cons Declares.blank.single

theorem tidy_develVersion : Tidy develVersion := by
  have hspace :
      Tidy (block "if p := strings.IndexFunc(s, unicode.IsSpace); p >= 0 " [line "s = s[:p]"]) :=
    .block (.brace (by decide)) (Tidy.literal (by decide)).single
  exact .block (.brace (by decide)) ((Tidy.literal (by decide)).cons
    (hspace.cons (Tidy.literal (by decide)).single))

theorem tidy_releaseVersion : Tidy releaseVersion := by
  have hrune : Tidy (block "if p := strings.IndexFunc(s, notSemverRune); p >= 0 " [
      line "s, prerelease = s[:p], s[p:]"]) :=
    .block (.brace (by decide)) (Tidy.literal (by decide)).single
  have hdot : Tidy (branch "strings.HasSuffix(s, \".\")" [line "s += \"0\""] [line "s += \".0\""]
      "if strings.Count(s, \".\") < 2 ") := by
    decide
  have hdash : Tidy (block "if prerelease != \"\" " [line "s += \"-\" + prerelease"]) :=
    .block (.brace (by decide)) (Tidy.literal (by decide)).single
  refine .block (.brace (by decide)) (.flatten ?_)
  simp only [List.forall_mem_cons]
  exact ⟨.literal (by decide), .literal (by decide), hrune, hdot, hdash,
    .literal (by decide), by simp⟩

theorem declares_versionGo : Declares versionGo [.global "versionGo"] := by
  have hfirst :
      Declares (line "// versionGo returns the Go runtime version. The returned string") [] :=
    .literal (by decide)
  have hsecond : Declares (line "// has no whitespace, suitable for reporting in header.") [] :=
    .literal (by decide)
  have hhead : Heads "func versionGo() string " (.global "versionGo") := by
    refine ⟨.brace (by decide), ?_⟩
    exact Item.ofLine?_global "func " "() string \x7b".toList (by decide) (.ofList (by decide))
      (by simp [Item.isNamePart_of_mem]) (by simp)
  have hrune : Tidy (block "notSemverRune := func(r rune) bool " [
      line "return !strings.ContainsRune(\"0123456789.\", r)"]) :=
    .block (.brace (by decide)) (Tidy.literal (by decide)).single
  refine hfirst.cons (hsecond.cons ((Declares.block hhead (.flatten ?_)).cons Declares.blank.single))
  simp only [List.forall_mem_cons]
  exact ⟨.literal (by decide), .blank, .literal (by decide), tidy_develVersion, .blank, hrune, .blank,
    tidy_releaseVersion, .literal (by decide), by simp⟩

theorem declares_body : Declares body
    [.global "insertMetadata", .global "versionGo", .global "versionClient"] := by
  have hremark :
      Declares (line "// versionClient is the version of the generator that produced this package.")
        [] :=
    .literal (by decide)
  have hversion : Declares (line s!"const versionClient = {quoted generatorVersion}")
      [.global "versionClient"] := by
    have hitem : Item.ofLine? s!"const versionClient = {quoted generatorVersion}".toList =
        some (.global "versionClient") :=
      Item.ofLine?_global "const " (" = ".toList ++ (quoted generatorVersion).toList) (by decide)
        (.ofList (by decide)) (by simp [Item.isNamePart_of_mem]) (by simp [toString])
    have hline : IsLine 0 0 s!"const versionClient = {quoted generatorVersion}" :=
      (Front.ofList (by decide)).last (newline_notMem_quoted _) (Front.ends_quoted _)
    exact (Declares.line hline).of_eq (congrArg Option.toList hitem)
  exact declares_insertMetadata.cons (declares_versionGo.cons (hremark.cons hversion.single))

/-- What the file declares that the clients of a package share. -/
theorem ofText_outputFile {options : Options} (hpkg : IsName options.pkgName) :
    Item.ofText (outputFile options).content =
      [.package options.pkgName, .global "insertMetadata", .global "versionGo",
        .global "versionClient"] := by
  have himports : ∀ spec ∈ imports.specs, spec.name = "" ∨ IsName spec.name := by
    decide
  have hheader := (Header.declares_code (summary options) hpkg himports).ofText_append (render body)
  rw [render_eq body, declares_body.ofText] at hheader
  exact hheader

end Doc

namespace Client

variable {client : Client}

def items (options : Options) (new : List Element) (client : Client) : List Item :=
  .package options.pkgName :: (client.scaffoldItems ++
    client.calls.map (fun call => .method client.typeName call.method.name) ++
    new.flatMap Element.items)

theorem Spelled.ofText_fileDeclaring {options : Options} {new : List Element} (h : client.Spelled)
    (hpkg : IsName options.pkgName) (hnew : new ⊆ client.elements) :
    Item.ofText (client.fileDeclaring options new).content = client.items options new := by
  have hmethods : Declares (client.calls.flatMap client.method)
      (client.calls.flatMap fun call => [.method client.typeName call.method.name]) :=
    .flatMap fun call hc => h.declares_method (h.calls call hc) (h.exchanges call hc)
  have hiterators : Declares (new.flatMap Element.declaration) (new.flatMap Element.items) :=
    .flatMap fun element he => (h.named_element (hnew he)).declares_declaration
  have hbody := h.declares_scaffold.cons (hmethods.cons hiterators.single)
  have hheader := (Header.declares_code none hpkg fun spec hs =>
    h.name_of_mem_imports hs).ofText_append (render (seq [client.scaffold,
      client.calls.flatMap client.method, new.flatMap Element.declaration]))
  rw [render_eq (seq _), seq, hbody.ofText] at hheader
  refine hheader.trans ?_
  simp [items, List.map_eq_flatMap]

end Client

end ClientGen
