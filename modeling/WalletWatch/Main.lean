import WalletWatch.Launch
/-!
# The program without a window

Reads the settings, prints the texts of the first frame of the window as it is asked for, and keeps
its geometry. The directory of the settings follows from the variables `XDG_DATA_HOME` and `HOME`.
-/

open WalletWatch

def programDirectory : IO String := do
  return Directory.program (← IO.getEnv "XDG_DATA_HOME") ((← IO.getEnv "HOME").getD "")

def storeOf (file : String) : IO Store := do
  try
    return Store.ofBytes (← IO.FS.readBinFile file)
  catch _ =>
    return Store.empty

/-- The server does not answer a program without a network. -/
def silentServer : Script :=
  ⟨.const [], fun _ _ => ⟨none, 0⟩⟩

def main : IO Unit := do
  let directory ← programDirectory
  let file := Directory.join directory "settings.json"
  IO.FS.createDirAll (Directory.join directory "logs")
  let opened := Watch.launch (← storeOf file) silentServer 0
  let view := (WindowOptions.ofSettings opened.session.settings).view
  for drawn in (opened.drawing view).texts do
    IO.println drawn.text
  match ((opened.frame view).close).store.file with
  | some bytes => IO.FS.writeBinFile file bytes
  | none => return
