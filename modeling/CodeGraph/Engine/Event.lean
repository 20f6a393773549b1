import CodeGraph.Json.Basic
/-! The events that come in and go out. -/
namespace CodeGraph

inductive InboundEvent where
  | fileChanged
  | dependenciesChanged
  | analysisUpdated
  | errorDetected
  | agentUpdate
  | projectUpdate
  deriving DecidableEq, Repr

namespace InboundEvent

def all : List InboundEvent :=
  [fileChanged, dependenciesChanged, analysisUpdated, errorDetected, agentUpdate, projectUpdate]

def name : InboundEvent → String
  | fileChanged => "fileChanged"
  | dependenciesChanged => "dependenciesChanged"
  | analysisUpdated => "analysisUpdated"
  | errorDetected => "errorDetected"
  | agentUpdate => "agentUpdate"
  | projectUpdate => "projectUpdate"

def ofName? (s : String) : Option InboundEvent := all.find? (·.name == s)

end InboundEvent

inductive OutboundEvent where
  | ready
  | requestCodeAnalysis
  | analyzeCode
  | agentNotification
  | errorAnalysis
  | reportError
  | agentUpdate
  | projectUpdate
  | requestAgentContext
  | requestProjectUpdate
  | error
  deriving DecidableEq, Repr

def OutboundEvent.name : OutboundEvent → String
  | ready => "initializeIntegrations"
  | requestCodeAnalysis => "requestCodeAnalysis"
  | analyzeCode => "analyzeCode"
  | agentNotification => "agentNotification"
  | errorAnalysis => "errorAnalysis"
  | reportError => "reportError"
  | agentUpdate => "agentUpdate"
  | projectUpdate => "projectUpdate"
  | requestAgentContext => "requestAgentContext"
  | requestProjectUpdate => "requestProjectUpdate"
  | error => "error"

end CodeGraph
