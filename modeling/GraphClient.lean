import GraphClient.Client
import GraphClient.Rehearsal.PoolRun
import GraphClient.Rehearsal.SessionRun
import GraphClient.Traversal.Vocabulary
import GraphClient.Value.Convert
import GraphClient.Proofs.Places
import GraphClient.Proofs.Custody
import GraphClient.Proofs.Books
import GraphClient.Proofs.Answers
import GraphClient.Proofs.Ledger
import GraphClient.Proofs.DrainDeadline
import GraphClient.Proofs.Exhaustion
import GraphClient.Proofs.RequestText
import GraphClient.Proofs.Channels
import GraphClient.Proofs.Requests
import GraphClient.Proofs.Closing
import GraphClient.Proofs.InTime
import GraphClient.Proofs.Noise
import GraphClient.Proofs.Streaming
import GraphClient.Proofs.ScriptReading
import GraphClient.Proofs.PlainDocuments
import GraphClient.Proofs.SessionCourses
import GraphClient.Proofs.Disconnection
import GraphClient.Proofs.Turns
import GraphClient.Proofs.PlainValues
import GraphClient.Proofs.ElementRecords
import GraphClient.Proofs.Handlers
import GraphClient.Proofs.Sets
import GraphClient.Proofs.WireMaps
import GraphClient.Proofs.BulkSets
import GraphClient.Proofs.VertexProperties
import GraphClient.Proofs.IntegerTexts
import GraphClient.Proofs.AddressTexts
import GraphClient.Proofs.CredentialTexts
import GraphClient.Proofs.FrameBytes
import GraphClient.Proofs.RequestIds
import GraphClient.Proofs.Deadlines
import GraphClient.Proofs.Replies
import GraphClient.Proofs.Secrecy
import GraphClient.Proofs.TimeoutCounts
import GraphClient.Proofs.UnopenedSessions
import GraphClient.Proofs.RecordedStates
