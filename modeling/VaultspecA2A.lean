import VaultspecA2A.DeletionSaga
import VaultspecA2A.CircuitBreaker
import VaultspecA2A.GroundingCompleteness
import VaultspecA2A.AnsweredOptions
import VaultspecA2A.ReceiptPersistence
import VaultspecA2A.DecisionLog
import VaultspecA2A.ReaskedRequests
import VaultspecA2A.RouteParsing
import VaultspecA2A.ApprovalAsks
import VaultspecA2A.WorkerPrerequisites
import VaultspecA2A.StarSupersteps
import VaultspecA2A.ReceiptChannels
import VaultspecA2A.PermissionCallback
import VaultspecA2A.ActivePages
import VaultspecA2A.RequestRows
import VaultspecA2A.RevisionBudgets
import VaultspecA2A.ProposalRevisions
import VaultspecA2A.WorkerBridge
import VaultspecA2A.CodexPermission
import VaultspecA2A.Disclosures
import VaultspecA2A.CancelArbitration
import VaultspecA2A.PauseRecorder
import VaultspecA2A.CheckpointPruning
import VaultspecA2A.RecoveryPass
import VaultspecA2A.RunNumbering
import VaultspecA2A.RunEventWriter
import VaultspecA2A.ResumeWindow
import VaultspecA2A.ChunkBuffer
import VaultspecA2A.SettledCalls
import VaultspecA2A.LiveStateMirror
import VaultspecA2A.SseWire
import VaultspecA2A.ContextCompaction
import VaultspecA2A.DerivedKeys
import VaultspecA2A.ClarificationFingerprints
import VaultspecA2A.PathArguments
import VaultspecA2A.WriteLock
import VaultspecA2A.DispatchIds
import VaultspecA2A.FailureReasons
import VaultspecA2A.PortReservations
import VaultspecA2A.Pipelines
