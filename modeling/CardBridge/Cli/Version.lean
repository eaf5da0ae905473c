import CardBridge.Session.Config

/-!
# What the program is
-/

namespace CardBridge.Cli

def programName : String := "vpcd-bridge"

def programVersion : String := "0.2.1"

/-- What there is to know about how the program was built. -/
structure Build where
  target : String := "unknown"
  /-- The state of its text. -/
  revision : String := "unknown"

def versionLines (build : Build) (extended : Bool) : List String :=
  if extended then
    [s!"name: {programName}",
     s!"version: {programVersion}",
     s!"target: {build.target}",
     s!"git_hash: {build.revision}",
     "async_codec: true",
     s!"default_port: {defaultPort}",
     "backends: dummy, relay"]
  else [s!"{programName} {programVersion}"]

end CardBridge.Cli
