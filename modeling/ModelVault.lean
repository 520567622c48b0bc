import ModelVault.CommandLine.Surroundings
import ModelVault.Main
import ModelVault.Proofs.Client.RoundTrip
import ModelVault.Proofs.Storage.Numbers
import ModelVault.Proofs.Storage.Refusals
import ModelVault.Proofs.Storage.Agreement
import ModelVault.Proofs.Storage.LastWrites
import ModelVault.Proofs.Service.Paging
import ModelVault.Proofs.Client.Collecting
import ModelVault.Proofs.Client.VersionListing
import ModelVault.Proofs.Storage.Deletions
import ModelVault.Proofs.Storage.Faults
import ModelVault.Proofs.Client.ModelListing
import ModelVault.Proofs.Service.Integrity
import ModelVault.Proofs.Client.Pulling
import ModelVault.Proofs.Service.Waiting
import ModelVault.Proofs.Service.Gating
import ModelVault.Proofs.Service.Retries
import ModelVault.Proofs.Wire.Messages
import ModelVault.Proofs.Storage.Addressing
import ModelVault.Proofs.Text.ByteOrder
import ModelVault.Proofs.Service.Answers
import ModelVault.Proofs.Service.VersionPages
import ModelVault.Proofs.Service.Enumeration
import ModelVault.Proofs.Client.CompleteListing
import ModelVault.Proofs.Client.Timestamps
import ModelVault.Number.Word
import ModelVault.Proofs.Config.Layers
import ModelVault.Proofs.Config.Loading
import ModelVault.Proofs.Service.Cutting
import ModelVault.Proofs.Service.Timeouts
import ModelVault.Proofs.Config.Writing
import ModelVault.Proofs.Config.Serving
import ModelVault.Proofs.Net.Addresses
import ModelVault.Proofs.Text.Numerals
import ModelVault.Proofs.Storage.Times
