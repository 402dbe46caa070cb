/-! # Notes on the progress of work -/
namespace ReferenceAudit

inductive Level
  | debug | info | warning
  deriving DecidableEq, Repr

def Level.word : Level → String
  | .debug => "DEBUG"
  | .info => "INFO"
  | .warning => "WARNING"

/-- What part of the work a note is on. -/
inductive Topic
  | config | references | usedReport | files | manifest | graph | contributions | judgement | diagnostics
  | analysis | collection
  deriving DecidableEq, Repr

def Topic.name : Topic → String
  | .config => "reftrim.config"
  | .references => "reftrim.store.declared"
  | .usedReport => "reftrim.store.used_report"
  | .files => "reftrim.store.files"
  | .manifest => "reftrim.lockfile.schema"
  | .graph => "reftrim.lockfile.graph_builder"
  | .contributions => "reftrim.analysis.transitive"
  | .judgement => "reftrim.analysis.classifier"
  | .diagnostics => "reftrim.diagnostics.emitter"
  | .analysis => "reftrim.pipeline"
  | .collection => "reftrim.collector"

structure Note where
  level : Level
  topic : Topic
  text : String
  deriving DecidableEq, Repr

namespace Note

def line (n : Note) : String := n.level.word ++ " " ++ n.topic.name ++ ": " ++ n.text

/-- Whether a note is shown; details are shown only on request. -/
def isShown (verbose : Bool) (n : Note) : Bool := verbose || n.level == .warning

end Note

def amount (count : Nat) (thing : String) : String := toString count ++ " " ++ thing ++ "(s)"

end ReferenceAudit
