import SigningPreview.CommandLine
import SigningPreview.Main
import SigningPreview.Proofs.Report.Agreement
import SigningPreview.Proofs.Report.Conservation
import SigningPreview.Proofs.Report.Malformed
import SigningPreview.Proofs.Report.Tags
import SigningPreview.Proofs.Wire.Extension
import SigningPreview.Proofs.Wire.Null
import SigningPreview.Proofs.Wire.RoundTrip
import SigningPreview.Proofs.Record.Decoding
import SigningPreview.Proofs.Address.Length
import SigningPreview.Proofs.View.Addresses
import SigningPreview.Proofs.Report.Header
import SigningPreview.Proofs.Report.Filing
import SigningPreview.Proofs.Report.Lines
import SigningPreview.Proofs.Label.Quantity
import SigningPreview.Proofs.Address.Base58
import SigningPreview.Proofs.Amount.Reading
import SigningPreview.Proofs.Label.Allowance
import SigningPreview.Proofs.View.Visible
import SigningPreview.Proofs.View.Direction
import SigningPreview.Proofs.Address.Hexadecimal
import SigningPreview.Proofs.Grouping.Effects
import SigningPreview.Proofs.Report.Congruence
import SigningPreview.Proofs.Report.Spellings
import SigningPreview.Proofs.Record.Tag
import SigningPreview.Proofs.View.NativeAsset
import SigningPreview.Proofs.Grouping.Runs
import SigningPreview.Proofs.View.Token
import SigningPreview.Proofs.Label.Account
