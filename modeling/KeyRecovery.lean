import KeyRecovery.Entry.Line
import KeyRecovery.Entry.Row
import KeyRecovery.Form.Widgets
import KeyRecovery.Key.Link
import KeyRecovery.Keyring
import KeyRecovery.Main
import KeyRecovery.Memory.Lemmas
import KeyRecovery.Password.Encode
import KeyRecovery.Proofs.Entry.Invariant
import KeyRecovery.Proofs.Entry.Refinement
import KeyRecovery.Proofs.Password.Codec
import KeyRecovery.Proofs.Password.Rejection
import KeyRecovery.Proofs.Memory.Frame
import KeyRecovery.Proofs.Key.Trace
import KeyRecovery.Proofs.Key.Derivation
import KeyRecovery.Proofs.Session.Call
import KeyRecovery.Proofs.Session.Keyring
import KeyRecovery.Proofs.Entry.Decision
import KeyRecovery.Proofs.Entry.Shown
import KeyRecovery.Proofs.Entry.Dialogue
import KeyRecovery.Proofs.Entry.Screen
import KeyRecovery.Proofs.Form.Steps
import KeyRecovery.Proofs.Form.Custody
import KeyRecovery.Proofs.Double.Order
import KeyRecovery.Proofs.Session.AutoLock
import KeyRecovery.Proofs.Session.TimeLimit
import KeyRecovery.Proofs.Entry.RawMode
import KeyRecovery.Proofs.Key.Reference
import KeyRecovery.Proofs.Password.Slip
import KeyRecovery.Proofs.Entry.LiveCheck
import KeyRecovery.Proofs.Entry.GoodBlocks
import KeyRecovery.Proofs.Entry.Ignored
import KeyRecovery.Proofs.Form.Mount
import KeyRecovery.Proofs.Entry.WholePassword
import KeyRecovery.Proofs.Command.Outcome
import KeyRecovery.Proofs.Command.Refusal
import KeyRecovery.Proofs.Form.Clipboard
import KeyRecovery.Proofs.Form.Keys
import KeyRecovery.Proofs.Key.Ends
import KeyRecovery.Proofs.Session.Stored
import KeyRecovery.Proofs.Session.Atomic
import KeyRecovery.Proofs.Session.Extension
import KeyRecovery.Proofs.Password.Language
import KeyRecovery.Proofs.Password.Verdict
import KeyRecovery.Proofs.Key.Lending
import KeyRecovery.Proofs.Settings.Salt
import KeyRecovery.Proofs.Settings.SaltDump
import KeyRecovery.Proofs.Entry.Undo
import KeyRecovery.Proofs.Form.PromptLine
import KeyRecovery.Proofs.Memory.Stride
import KeyRecovery.Proofs.Memory.Wipe
import KeyRecovery.Proofs.Memory.Scrubbed
import KeyRecovery.Proofs.Settings.LogLevel
import KeyRecovery.Proofs.Password.Normalization
