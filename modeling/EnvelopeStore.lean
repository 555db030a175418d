import EnvelopeStore.Text.Basic
import EnvelopeStore.Text.Fault
import EnvelopeStore.Text.Utf8
import EnvelopeStore.Text.Wide
import EnvelopeStore.Text.Blank
import EnvelopeStore.Text.Digit
import EnvelopeStore.Text.Alphanumeric
import EnvelopeStore.Text.Printable
import EnvelopeStore.Text.Quoted
import EnvelopeStore.Text.Numeral
import EnvelopeStore.Binary64.Basic
import EnvelopeStore.Binary64.Shortest
import EnvelopeStore.Value.Basic
import EnvelopeStore.Value.Display
import EnvelopeStore.Json.Writer
import EnvelopeStore.Json.Fault
import EnvelopeStore.Json.Reader
import EnvelopeStore.Json.Source
import EnvelopeStore.Base64
import EnvelopeStore.Cipher.Aes
import EnvelopeStore.Cipher.Ghash
import EnvelopeStore.Cipher.Gcm
import EnvelopeStore.Cipher.Stream
import EnvelopeStore.Form
import EnvelopeStore.Failure
import EnvelopeStore.Bindings
import EnvelopeStore.Action
import EnvelopeStore.Entropy
import EnvelopeStore.Crypto.Key
import EnvelopeStore.Crypto.Payload
import EnvelopeStore.Crypto.Provider
import EnvelopeStore.Entry
import EnvelopeStore.InlineValue
import EnvelopeStore.Storage.Basic
import EnvelopeStore.Storage.Listing
import EnvelopeStore.Storage.Memory
import EnvelopeStore.Storage.Unreliable
import EnvelopeStore.Service.Http
import EnvelopeStore.Service.Store
import EnvelopeStore.Service.Backend
import EnvelopeStore.Table.Query
import EnvelopeStore.Table.Pool
import EnvelopeStore.Table.Like
import EnvelopeStore.Table.Store
import EnvelopeStore.TrustAnchor.Basic
import EnvelopeStore.TrustAnchor.Registry
import EnvelopeStore.TrustAnchor.KeyManager
import EnvelopeStore.Client
import EnvelopeStore.Polling
import EnvelopeStore.Settings
import EnvelopeStore.EnvFile
import EnvelopeStore.Tampering
import EnvelopeStore.World
import EnvelopeStore.Proofs.Base64
import EnvelopeStore.Proofs.Utf8
import EnvelopeStore.Proofs.Gcm
import EnvelopeStore.Proofs.Actions
import EnvelopeStore.Proofs.Providers
import EnvelopeStore.Proofs.InProcess
import EnvelopeStore.Proofs.Sealing
import EnvelopeStore.Proofs.PayloadTexts
import EnvelopeStore.Proofs.Integrity
import EnvelopeStore.Proofs.ExportedKeys
import EnvelopeStore.Proofs.CallOrder
import EnvelopeStore.Proofs.Order
import EnvelopeStore.Proofs.InlineValues
import EnvelopeStore.Proofs.PlainMap
import EnvelopeStore.Proofs.RegistryHistory
import EnvelopeStore.Proofs.Tasks
import EnvelopeStore.Proofs.Tokens
import EnvelopeStore.Proofs.Reading
import EnvelopeStore.Proofs.Documents
import EnvelopeStore.Proofs.WholeNumbers
import EnvelopeStore.Proofs.Records
import EnvelopeStore.Proofs.CanonicalRecords
import EnvelopeStore.Proofs.KeyService
import EnvelopeStore.Proofs.Answers
import EnvelopeStore.Proofs.Exchanges
import EnvelopeStore.Proofs.RememberedIds
import EnvelopeStore.Proofs.AnswerForms
import EnvelopeStore.Proofs.RowService
import EnvelopeStore.Proofs.ServiceReplies
import EnvelopeStore.Proofs.Noninterference
import EnvelopeStore.Proofs.Backend
import EnvelopeStore.Proofs.RemoteClients
import EnvelopeStore.Proofs.RowMap
import EnvelopeStore.Proofs.Patterns
import EnvelopeStore.Proofs.TableMap
import EnvelopeStore.Proofs.Isolation
import EnvelopeStore.Proofs.Turns
import EnvelopeStore.Proofs.KeyIds
import EnvelopeStore.Proofs.Metering
import EnvelopeStore.Proofs.Draws
import EnvelopeStore.Proofs.EntropyFailures
import EnvelopeStore.Proofs.Stripping
import EnvelopeStore.Proofs.RawRecords
import EnvelopeStore.Proofs.MemoryHistory
import EnvelopeStore.Proofs.Waiting
import EnvelopeStore.Proofs.Numerals
import EnvelopeStore.Proofs.LoadedSettings
import EnvelopeStore.Proofs.Statements
