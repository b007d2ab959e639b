import ExtensionHost.Client.State
import ExtensionHost.Process.Image

/-!
# Launching a server

A server is launched from its options: its program has to be there before anything is tried, and then
the system may still refuse to run it.
-/

namespace ExtensionHost.Client

/-- Whether the program of a server is there: a path of several parts leads to a file, and a name alone
is found among the programs of the system. -/
def isAvailable (files : Files) (cwd path : String) : Bool :=
  if Path.hasSeveralParts path then files.isFile cwd path
  else
    match Image.find files cwd path with
    | .ok _ => true
    | .error _ => false

/-- The failure of a server that is not there. -/
def serverMissing (path : String) : HostError :=
  ⟨.notFound, "Language server not found: " ++ path⟩

/-- The failure of a server that the system does not run. -/
def serverRefused (path : String) (e : SystemError) : HostError :=
  ⟨.process, "Failed to start " ++ path ++ ": " ++ e.message⟩

/-- The program that is run for a server, and the directory that it runs in. -/
def launch (files : Files) (cwd : String) (server : ServerOptions) (options : ClientOptions) :
    Except HostError (Image × String) :=
  if isAvailable files cwd server.path then
    (findIn files cwd options.rootPath server.path server.args server.env).mapError
      (serverRefused server.path)
  else .error (serverMissing server.path)

end ExtensionHost.Client
