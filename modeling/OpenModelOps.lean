import OpenModelOps.AgentInvocation
import OpenModelOps.AgentPolicy
import OpenModelOps.AiopsIncident
import OpenModelOps.AriaRefusal
import OpenModelOps.AriaReplay
import OpenModelOps.AriaReports
import OpenModelOps.BankingDuplicates
import OpenModelOps.BankingScoring
import OpenModelOps.DecisionBreaker
import OpenModelOps.DecisionCache
import OpenModelOps.DecisionStates
import OpenModelOps.EcommerceRetrieval
import OpenModelOps.EcommerceTools
import OpenModelOps.EcommerceWorkflow
import OpenModelOps.FactoryAudit
import OpenModelOps.FactoryCatalog
import OpenModelOps.FactoryDocuments
import OpenModelOps.FactoryDuties
import OpenModelOps.FactoryEvidence
import OpenModelOps.FactoryNoninterference
import OpenModelOps.FactoryProgress
import OpenModelOps.FactorySigned
import OpenModelOps.FactoryStorage
import OpenModelOps.FeatureContracts
import OpenModelOps.GreedySelection
import OpenModelOps.IntegrationDelivery
import OpenModelOps.IntegrationEffects
import OpenModelOps.IntegrationEnqueue
import OpenModelOps.IntegrationEvaluation
import OpenModelOps.IntegrationFairness
import OpenModelOps.IntegrationHttp
import OpenModelOps.IntegrationIdempotence
import OpenModelOps.IntegrationRetries
import OpenModelOps.JsonNesting
import OpenModelOps.JsonRespelling
import OpenModelOps.JudgeCalibration
import OpenModelOps.JudgeDigests
import OpenModelOps.JudgeGate
import OpenModelOps.JudgePromotion
import OpenModelOps.JudgeProvenance
import OpenModelOps.JudgeProviders
import OpenModelOps.JudgeReplies
import OpenModelOps.JudgeRequests
import OpenModelOps.JudgeShadow
import OpenModelOps.JudgeStore
import OpenModelOps.KeyedEffects
import OpenModelOps.MetalAdmission
import OpenModelOps.MetalChat
import OpenModelOps.MetalConversation
import OpenModelOps.MetalGrant
import OpenModelOps.MetalLoss
import OpenModelOps.MetalMemory
import OpenModelOps.MetalOrder
import OpenModelOps.MlflowRegistry
import OpenModelOps.MlopsAudit
import OpenModelOps.MlopsConcurrency
import OpenModelOps.MlopsDocuments
import OpenModelOps.MlopsGate
import OpenModelOps.MlopsHistory
import OpenModelOps.MlopsRequests
import OpenModelOps.OperatorConvergence
import OpenModelOps.OperatorStatus
import OpenModelOps.PatternSearch
import OpenModelOps.PlatformAdmission
import OpenModelOps.PlatformNarrowing
import OpenModelOps.PlatformOperator
import OpenModelOps.Possibility
import OpenModelOps.PythonValue
import OpenModelOps.RagWorkflow
import OpenModelOps.RecentUse
import OpenModelOps.ReviewApproval
import OpenModelOps.ReviewConcurrency
import OpenModelOps.ReviewGithub
import OpenModelOps.ReviewLatch
import OpenModelOps.ReviewMemory
import OpenModelOps.ReviewPages
import OpenModelOps.ReviewRequests
import OpenModelOps.Simulation
import OpenModelOps.SreAnalyzers
import OpenModelOps.SreBinding
import OpenModelOps.SreCluster
import OpenModelOps.SreDocuments
import OpenModelOps.SreExecution
import OpenModelOps.SreRefusal
import OpenModelOps.SreRequests
import OpenModelOps.SreSnapshot
import OpenModelOps.SreStorage
import OpenModelOps.StreamingDrill
import OpenModelOps.StreamingScores
import OpenModelOps.StreamingSkew
import OpenModelOps.Telemetry
import OpenModelOps.ReviewDocuments
