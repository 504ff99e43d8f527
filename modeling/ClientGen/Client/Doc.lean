import ClientGen.Client.Header
import ClientGen.Import.Client
import ClientGen.Text.Quoted

namespace ClientGen.Doc

open Code Text

def generatorVersion : String := "0.1.0"

def imports : ImportSet :=
  .ofList [ClientImport.context, ClientImport.metadata, .ofPath "runtime", .ofPath "strings",
    .ofPath "unicode"]

def insertMetadata : Code :=
  seq [
    block "func insertMetadata(ctx context.Context, mds ...metadata.MD) context.Context " [
      line "out, _ := metadata.FromOutgoingContext(ctx)",
      line "out = out.Copy()",
      block "for _, md := range mds " [
        block "for k, v := range md " [line "out[k] = append(out[k], v...)"]],
      line "return metadata.NewOutgoingContext(ctx, out)"],
    blank]

def develVersion : Code :=
  block "if strings.HasPrefix(s, develPrefix) " [
    line "s = s[len(develPrefix):]",
    block "if p := strings.IndexFunc(s, unicode.IsSpace); p >= 0 " [line "s = s[:p]"],
    line "return s"]

def releaseVersion : Code :=
  block "if strings.HasPrefix(s, \"go1\") " [
    line "s = s[2:]",
    line "var prerelease string",
    block "if p := strings.IndexFunc(s, notSemverRune); p >= 0 " [
      line "s, prerelease = s[:p], s[p:]"],
    branch "strings.HasSuffix(s, \".\")"
      [line "s += \"0\""]
      [line "s += \".0\""] "if strings.Count(s, \".\") < 2 ",
    block "if prerelease != \"\" " [line "s += \"-\" + prerelease"],
    line "return s"]

def versionGo : Code :=
  seq [
    line "// versionGo returns the Go runtime version. The returned string",
    line "// has no whitespace, suitable for reporting in header.",
    block "func versionGo() string " [
      line "const develPrefix = \"devel +\"",
      blank,
      line "s := runtime.Version()",
      develVersion,
      blank,
      block "notSemverRune := func(r rune) bool " [
        line "return !strings.ContainsRune(\"0123456789.\", r)"],
      blank,
      releaseVersion,
      line "return \"UNKNOWN\""],
    blank]

def body : Code :=
  seq [
    insertMetadata,
    versionGo,
    line "// versionClient is the version of the generator that produced this package.",
    line s!"const versionClient = {quoted generatorVersion}"]

def summary (options : Options) : String :=
  s!"Package {options.pkgName} is an auto-generated package for the API clients of {options.pkgPath}."

end ClientGen.Doc
