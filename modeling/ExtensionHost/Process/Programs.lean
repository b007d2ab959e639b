import ExtensionHost.Client.Server
import ExtensionHost.Process.Request
import ExtensionHost.Task.Basic
import ExtensionHost.Wire.Options

/-!
# Programs of a host

What a host runs: programs that end, and servers. Each sees the files and the directory that it is run
in. A host may have any such programs; nothing else is known about them.
-/

namespace ExtensionHost

/-- The programs that a host runs. `call` runs one to its end and gives what it changed as well; `serve`
launches a server. -/
structure Programs where
  call : Files → String → ProcessRequest → Outcome ProcessOutput × List (String × Option Entry)
  serve : Files → String → ServerOptions → ClientOptions → Except HostError Server

end ExtensionHost
