import BlockVault.Hash.Crc32
import BlockVault.Hash.Sha2
import BlockVault.Hash.XxHash
import BlockVault.Number.Power
import BlockVault.Number.Quantity
import BlockVault.Number.Reading
import BlockVault.Text.Line
import BlockVault.Text.LowerCase
import BlockVault.Text.Printable
import BlockVault.Text.Quoted
import BlockVault.Text.ShellWord
import BlockVault.Text.Utf8
import BlockVault.Checksum
import BlockVault.Calendar
import BlockVault.ObjectName
import BlockVault.Settings
import BlockVault.Retry
import BlockVault.FileTree.Checksum
import BlockVault.Codec.Standard
import BlockVault.Registry
import BlockVault.Vault
import BlockVault.Command.Timeline
import BlockVault.Program.Launch
import BlockVault.Mount.Cleanup
import BlockVault.Mount.Live
import BlockVault.Proofs.Lz4.Series
import BlockVault.Proofs.Verify
import BlockVault.Proofs.RoundTrip
import BlockVault.Proofs.Failing
import BlockVault.Proofs.Command
import BlockVault.Proofs.Mount.History
import BlockVault.Proofs.Mount.Reconcile
import BlockVault.Proofs.Mount.Live
import BlockVault.Proofs.Mount.Verdict
import BlockVault.Proofs.Registry.Names
import BlockVault.Proofs.Retry
import BlockVault.Proofs.Registry.Frozen
import BlockVault.Proofs.Command.Watched
import BlockVault.Proofs.Command.Limit
import BlockVault.Proofs.Truncation
import BlockVault.Proofs.Delivery
import BlockVault.Proofs.Settings.Environment
import BlockVault.Proofs.Command.Output
import BlockVault.Proofs.Program.Words
import BlockVault.Proofs.Mount.Budget
import BlockVault.Proofs.Retry.Backoff
import BlockVault.Proofs.Retry.Whole
import BlockVault.Proofs.Settings.Acceptance
import BlockVault.Proofs.ObjectName.Listing
import BlockVault.Proofs.ObjectName.Alphabet
import BlockVault.Proofs.ObjectName.Keys
import BlockVault.Proofs.Checksum
import BlockVault.Proofs.Mount.Agreement
import BlockVault.Proofs.Mount.Listing
import BlockVault.Proofs.Address
import BlockVault.Proofs.Membership
import BlockVault.Proofs.Source.Chunks
