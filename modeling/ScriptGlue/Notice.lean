import ScriptGlue.Catalog
import ScriptGlue.Log.Level
import ScriptGlue.Path
import ScriptGlue.Rejection
import ScriptGlue.Text.Quoting

namespace ScriptGlue

inductive Notice where
  | shadowedClass (name : String)
  | catalogLoaded (catalog : String) (functions fields : Nat) (path : Path)
  | declarationsCollected (catalog : String) (functions fields : Nat)
  | classExcluded (name : String)
  | parserDiagnostic (text : String)
  | pathMissing (path : String)
  | naiveSplit (cause : Text.ShellWord.Unfinished)
  | templatesMissing (directory : Path)
  | functionSkipped (signature : String) (cause : Rejection)
  | fieldSkipped (signature : String) (cause : Rejection)
  | nameTaken (wrapper dropped kept : String)
  | bound (count skipped : Nat) (output : Path)
  | unchanged (path : Path)
  | written (path : Path)
  | wouldWrite (path : Path) (bytes : Nat)
  | manifestDone (path : Path)
  | nothingToDo
  | noHeaders
  | templatingFailed
  | collectingFailed
  | generatingFailed
  | manifestFailed
  | dryRunDone

namespace Notice

def level : Notice → Log.Level
  | shadowedClass _ | functionSkipped _ _ | fieldSkipped _ _ | unchanged _ | manifestDone _ =>
    Log.debug
  | catalogLoaded _ _ _ _ | declarationsCollected _ _ _ | classExcluded _ | bound _ _ _ | written _
  | wouldWrite _ _ | dryRunDone => Log.info
  | parserDiagnostic _ | pathMissing _ | naiveSplit _ | templatesMissing _ | nameTaken _ _ _ =>
    Log.warning
  | nothingToDo | noHeaders | templatingFailed | collectingFailed | generatingFailed
  | manifestFailed => Log.error

def channel : Notice → String
  | shadowedClass _ | catalogLoaded _ _ _ _ => "asbinding_generator.catalog"
  | declarationsCollected _ _ _ | classExcluded _ | parserDiagnostic _ =>
    "asbinding_generator.parsing.clang_catalog"
  | templatesMissing _ | unchanged _ | written _ | wouldWrite _ _ => "asbinding_generator.utils"
  | functionSkipped _ _ | fieldSkipped _ _ | nameTaken _ _ _ | bound _ _ _ =>
    "asbinding_generator.emitters.angelscript_emitter"
  | manifestDone _ => "asbinding_generator.manifest"
  | pathMissing _ | naiveSplit _ | nothingToDo | noHeaders | templatingFailed | collectingFailed
  | generatingFailed | manifestFailed | dryRunDone => "asbinding_generator.generate_bindings"

def counts (functions fields : Nat) : String :=
  toString functions ++ " function(s) and " ++ toString fields ++ " field(s)"

def message : Notice → String
  | shadowedClass name =>
    "Duplicate class '" ++ name ++ "' in catalog; keeping first definition"
  | catalogLoaded catalog functions fields path =>
    "Loaded " ++ catalog ++ ", " ++ counts functions fields ++ " from " ++ path.text
  | declarationsCollected catalog functions fields =>
    "Collected " ++ catalog ++ ", " ++ counts functions fields
  | classExcluded name => "Excluding class '" ++ name ++ "' due to exclude regex"
  | parserDiagnostic text => "[clang] " ++ text
  | pathMissing path => "Skipping non-existent path: " ++ path
  | naiveSplit cause =>
    "Falling back to naive clang args split due to parsing error: " ++ cause.message
  | templatesMissing directory =>
    "Templates directory " ++ directory.text ++ " not found; falling back to packaged templates"
  | functionSkipped signature cause => "Skipping " ++ signature ++ ": " ++ cause.message
  | fieldSkipped signature cause => "Skipping field " ++ signature ++ ": " ++ cause.message
  | nameTaken wrapper dropped kept =>
    "Wrapper name " ++ wrapper ++ " of " ++ dropped ++ " collides with " ++ kept ++ "; skipping"
  | bound count skipped output =>
    "Bound " ++ toString count ++ " declaration(s), skipped " ++ toString skipped ++ "; output: " ++
      output.text
  | unchanged path => "Unchanged: " ++ path.text
  | written path => "Wrote " ++ path.text
  | wouldWrite path bytes =>
    "Dry-run: would write " ++ path.text ++ " (" ++ toString bytes ++ " bytes)"
  | manifestDone path => "Manifest written to " ++ path.text
  | nothingToDo => "Nothing to do. Provide --headers or --catalog-json."
  | noHeaders => "No headers found to parse."
  | templatingFailed => "Failed to initialize templating"
  | collectingFailed => "Failed to collect declarations"
  | generatingFailed => "Failed to generate files"
  | manifestFailed => "Failed to emit generation manifest"
  | dryRunDone => "Dry-run complete (no files written)."

def record (n : Notice) : Log.Record := ⟨n.channel, n.level, n.message⟩

def line (n : Notice) : String := Log.levelName n.level ++ ": " ++ n.message

end Notice

end ScriptGlue
