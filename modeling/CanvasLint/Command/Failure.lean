import CanvasLint.Canvas.Document
import CanvasLint.Color.Contrast
import CanvasLint.Files.Tree
import CanvasLint.Report.Run
import CanvasLint.Rule.RuleSet
import CanvasLint.Thresholds

/-!
Why a command could not do what it was asked for. The message of a failure names the file at fault;
a rule set that is refused shows the code of its diagnostic.
-/
namespace CanvasLint.Command

inductive Failure where
  | configNotLoaded (file : Path)
  | ruleSetNotRead (file : Path)
  | ruleSetRefused (error : RuleSetError)
  | unknownPreset (name : String)
  | documentNotRead (file : Path)
  | documentNotLoaded (file : Path) (error : Canvas.DocumentError)
  | unusableThreshold (error : ThresholdError)
  | scanFailed (error : ScanError)
  | noContrast (error : Contrast.ColorError)
  | configExists (file : Path)
  | notWritten (fault : FileFault)

def Failure.message : Failure → String
  | configNotLoaded file => s!"Failed to load config: {file.text}"
  | ruleSetNotRead file => s!"Failed to read rule set: {file.text}"
  | ruleSetRefused error => error.code
  | unknownPreset name => s!"Unknown preset: {name} (expected recommended or basic)"
  | documentNotRead file => s!"Failed to read document: {file.text}"
  | documentNotLoaded file _ => s!"Failed to load document: {file.text}"
  | unusableThreshold _ => "Failed to build rule engine"
  | scanFailed _ => "Scan failed"
  | noContrast _ => "Failed to compute contrast"
  | configExists file =>
    s!"Configuration file already exists at {file.text}. Use --force to overwrite."
  | notWritten fault => fault.message

/-- What is behind the failure, where more can be said. -/
def Failure.detail : Failure → Option String
  | ruleSetRefused error => some error.message
  | documentNotLoaded _ error => some error.message
  | unusableThreshold error => some error.message
  | scanFailed error => some error.message
  | noContrast error => some error.message
  | _ => none

end CanvasLint.Command
