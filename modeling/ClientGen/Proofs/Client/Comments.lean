import ClientGen.Proofs.Emitter.Rows
import ClientGen.Run

namespace ClientGen

open Text Emitter

def Emitter.Op.isComment : Op → Bool
  | .line template => template == "//"
  | .comment _ => true
  | _ => false

def Code.withoutComments (code : Code) : Code := code.filter (!·.isComment)

namespace Emitter

variable {level : Nat} {op : Op} {ops more : List Op}

theorem levelAfter_of_isComment (h : op.isComment = true) : levelAfter level [op] = level := by
  cases op with
  | line template =>
    rw [eq_of_beq h, levelAfter_line]
    rfl
  | comment text => exact levelAfter_comment text
  | blank | enter | leave => cases h

theorem rows_of_isComment (h : op.isComment = true) {row : List Char} (hr : row ∈ op.rows level) :
    '\n' ∉ row ∧ isCommentLine row = true := by
  cases op with
  | line template =>
    have hrows : Op.rows level (.line "//") = [List.replicate level '\t' ++ ['/', '/']] := rfl
    rw [eq_of_beq h, hrows, List.mem_singleton] at hr
    rw [hr]
    exact ⟨by simp, isCommentLine_replicate _ _⟩
  | comment text =>
    obtain ⟨hn, rest, rfl⟩ := exists_of_mem_rows_comment hr
    exact ⟨hn, isCommentLine_replicate _ _⟩
  | blank | enter | leave => cases h

theorem filter_rows_of_isComment (h : op.isComment = true) :
    ((op.rows level).flatMap (·.splitOn '\n')).filter (!isCommentLine ·) = [] := by
  rw [List.filter_eq_nil_iff]
  intro line hl
  obtain ⟨row, hr, hl⟩ := List.mem_flatMap.mp hl
  obtain ⟨hn, hc⟩ := rows_of_isComment h hr
  rw [List.splitOn_eq_singleton hn, List.mem_singleton] at hl
  simp [hl, hc]

/-- Comments leave the lines of code as they are. -/
theorem filter_rows_withoutComments :
    ((rows level ops).flatMap (·.splitOn '\n')).filter (!isCommentLine ·) =
      ((rows level (Code.withoutComments ops)).flatMap (·.splitOn '\n')).filter
      (!isCommentLine ·) := by
  induction ops generalizing level with
  | nil => rfl
  | cons op ops ih =>
    by_cases h : op.isComment = true
    · have hrest : Code.withoutComments (op :: ops) = Code.withoutComments ops :=
        List.filter_cons_of_neg (by simp [h])
      rw [hrest, rows, List.flatMap_append, List.filter_append, filter_rows_of_isComment h,
        levelAfter_of_isComment h, ih]
      rfl
    · have hrest : Code.withoutComments (op :: ops) = op :: Code.withoutComments ops :=
        List.filter_cons_of_pos (by simp [h])
      rw [hrest, rows, rows, List.flatMap_append, List.filter_append, ih, List.flatMap_append,
        List.filter_append]

/-- After the text of a header, only what is no comment counts. -/
theorem codeLines_append_of_withoutComments_eq (header : List Op)
    (h : Code.withoutComments ops = Code.withoutComments more) :
    codeLines (render header ++ render ops).toList =
      codeLines (render header ++ render more).toList := by
  have hbody : codeLines (render ops).toList = codeLines (render more).toList := by
    have hwritten (ops : List Op) : codeLines (written 0 ops).toList =
        ((rows 0 (Code.withoutComments ops)).flatMap (·.splitOn '\n')).filter (!isCommentLine ·) ++
          codeLines [] := by
      rw [← filter_rows_withoutComments, ← codeLines_written, List.append_nil]
    rw [render_eq, render_eq, hwritten, hwritten, h]
  rw [String.toList_append, String.toList_append, render_eq header, codeLines_written, hbody,
    ← codeLines_written]

end Emitter

namespace Client

open Code

variable {client : Client}

def undocumented (client : Client) : Client :=
  { client with doc := none, calls := client.calls.map ({ · with doc := none }) }

theorem withoutComments_append (code more : Code) :
    Code.withoutComments (code ++ more) = code.withoutComments ++ more.withoutComments :=
  List.filter_append _ _

theorem withoutComments_serviceComment : client.serviceComment.withoutComments = [] := by
  unfold serviceComment
  split
  · rfl
  · unfold Code.when
    split <;> rfl

theorem withoutComments_methodComment (call : Call) : (methodComment call).withoutComments = [] := by
  unfold methodComment
  split
  · rfl
  · unfold Code.when
    split <;> rfl

theorem hasLongRunning_undocumented : client.undocumented.hasLongRunning = client.hasLongRunning := by
  simp [hasLongRunning, undocumented, Function.comp_def]

theorem elements_undocumented : client.undocumented.elements = client.elements := by
  rw [elements, undocumented, List.filterMap_map]
  rfl

theorem imports_undocumented : client.undocumented.imports = client.imports := by
  have hcalls : client.undocumented.calls.flatMap (·.exchange.imports) =
      client.calls.flatMap (·.exchange.imports) := by
    simp [undocumented, List.flatMap_map]
  have hscaffold : client.undocumented.scaffoldImports = client.scaffoldImports := by
    rw [scaffoldImports, hasLongRunning_undocumented]
    rfl
  rw [imports, hcalls, hscaffold]
  rfl

theorem constructor_undocumented : client.undocumented.constructor = client.constructor := by
  rw [constructor, hasLongRunning_undocumented]
  rfl

theorem withoutComments_clientStruct :
    client.undocumented.clientStruct.withoutComments = client.clientStruct.withoutComments := by
  simp only [clientStruct, seq, List.flatten_cons, withoutComments_append,
    withoutComments_serviceComment, hasLongRunning_undocumented]
  rfl

theorem withoutComments_scaffold :
    client.undocumented.scaffold.withoutComments = client.scaffold.withoutComments := by
  simp only [scaffold, seq, List.flatten_cons, withoutComments_append, withoutComments_clientStruct,
    constructor_undocumented]
  rfl

theorem withoutComments_method (call : Call) :
    (client.undocumented.method { call with doc := none }).withoutComments =
      (client.method call).withoutComments := by
  simp only [method, seq, List.flatten_cons, withoutComments_append, withoutComments_methodComment]
  rfl

theorem withoutComments_methods :
    Code.withoutComments (client.undocumented.calls.flatMap client.undocumented.method) =
      Code.withoutComments (client.calls.flatMap client.method) := by
  have hcalls : client.undocumented.calls.flatMap client.undocumented.method =
      client.calls.flatMap fun call => client.undocumented.method { call with doc := none } := by
    simp only [undocumented, List.flatMap_map]
  rw [hcalls]
  induction client.calls with
  | nil => rfl
  | cons call calls ih =>
    rw [List.flatMap_cons, withoutComments_append, withoutComments_method, ih,
      ← withoutComments_append, ← List.flatMap_cons]

/-- Comments change nothing else in the file of a client. -/
theorem codeLines_outputFile (options : Options) (declared : List String) :
    (client.undocumented.outputFile options declared).name =
    (client.outputFile options declared).name ∧
      codeLines (client.undocumented.outputFile options declared).content.toList =
        codeLines (client.outputFile options declared).content.toList := by
  refine ⟨rfl, ?_⟩
  have hheader : client.undocumented.header options = client.header options := by
    rw [header, imports_undocumented]
    rfl
  change codeLines (client.undocumented.header options ++ client.undocumented.body declared).toList =
    codeLines (client.header options ++ client.body declared).toList
  rw [hheader]
  apply codeLines_append_of_withoutComments_eq
  simp only [seq, List.flatten_cons, withoutComments_append, withoutComments_scaffold,
    withoutComments_methods, elements_undocumented]

end Client

end ClientGen
