import ExtensionHost.Document.Buffer
import ExtensionHost.Process.Request
import ExtensionHost.Wire.Options

/-!
# Starting the language server

What the extension needs to start its server: the launch scripts in the server's directory, the
request that makes them executable, the options of the server and of its client, and what is said when
the server stops.
-/

namespace ExtensionHost.Startup

/-- The identifier of the server's client. -/
def serverId : String := "elixirLS"

/-- The name of the server. -/
def serverName : String := "Elixir"

/-- The name of the directory of the server. -/
def serverDirectoryName : String := "elixir-ls"

/-- The name of the script that starts the server. -/
def launchScript : String := "language_server.sh"

/-- The directory of the server inside the extension. -/
def serverDirectory (extensionPath : String) : String :=
  Path.join extensionPath serverDirectoryName

/-! ## Launch scripts -/

/-- Whether a name is that of a launch script. -/
def isScript (name : String) : Bool := name.endsWith ".sh"

/-- The front of the paths of scripts in a directory: one slash between names and one at the end. -/
def scriptFront (directory : String) : String :=
  let names := (Files.pathNames directory).filter (· ≠ "")
  let root := if Path.isAbsolute directory || directory.isEmpty then "/" else ""
  root ++ String.join (names.map (· ++ "/"))

/-- The paths of the scripts in a directory, in increasing order, or the reason that there is none. -/
def launchScripts (files : Files) (cwd directory : String) : Except String (List String) :=
  let scripts := match files.locate cwd directory with
    | .ok (name, some .directory) => (files.list name).filter isScript
    | _ => []
  if scripts.isEmpty then .error ("no launch scripts found in " ++ directory)
  else .ok (scripts.map (scriptFront directory ++ ·))

/-- The program that changes permissions, found by its name. -/
def environmentProgram : String := "/usr/bin/env"

/-- The request that makes scripts executable for everyone. -/
def makeExecutable (scripts : List String) : ProcessRequest :=
  { program := environmentProgram, args := ["chmod", "a+x"] ++ scripts }

/-! ## Options -/

/-- How the server is run. -/
def serverOptions (extensionPath : String) : ServerOptions :=
  .stdio (Path.join (serverDirectory extensionPath) launchScript)

/-- What the client of the server is for. -/
def clientOptions (root : Option String) : ClientOptions :=
  { syntaxes := [elixirSyntax], rootPath := root }

/-! ## Messages -/

/-- The button that restarts the server. -/
def restartButton : String := "Restart"

/-- The button that leaves the server stopped. -/
def ignoreButton : String := "Ignore"

/-- What is said about a server that stopped. -/
def stopMessage (reason : Option String) : String :=
  let detail := match reason with
    | some reason => ":\n\n" ++ reason
    | none => "."
  "Elixir Language Server stopped unexpectedly" ++ detail ++
    "\n\nPlease report this, along with any output in the Extension Console."

end ExtensionHost.Startup
