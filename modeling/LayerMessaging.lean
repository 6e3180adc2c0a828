import LayerMessaging.Abi
import LayerMessaging.Bytes.Basic
import LayerMessaging.Bytes.Fixed
import LayerMessaging.Bytes.Hex
import LayerMessaging.Chain.Address
import LayerMessaging.Chain.Error
import LayerMessaging.Chain.Transaction
import LayerMessaging.Chain.Wallet
import LayerMessaging.Command
import LayerMessaging.Config.Basic
import LayerMessaging.Config.Description
import LayerMessaging.Config.Error
import LayerMessaging.Config.Load
import LayerMessaging.Curve.Secp256k1
import LayerMessaging.Deploy.Artifact
import LayerMessaging.Deploy.ArtifactReader
import LayerMessaging.Deploy.Error
import LayerMessaging.Deploy.Script
import LayerMessaging.Digest.Keccak
import LayerMessaging.Digest.Sha256
import LayerMessaging.EnvFile.Entry
import LayerMessaging.EnvFile.Line
import LayerMessaging.EnvFile.Load
import LayerMessaging.Environment
import LayerMessaging.Failure
import LayerMessaging.Files
import LayerMessaging.Json.Basic
import LayerMessaging.Json.Leftover
import LayerMessaging.Json.Printer
import LayerMessaging.Json.Reader
import LayerMessaging.Main
import LayerMessaging.Message.Basic
import LayerMessaging.Message.Payload
import LayerMessaging.Message.Selector
import LayerMessaging.Number.Binary64
import LayerMessaging.Number.Numeral
import LayerMessaging.Number.Shortest
import LayerMessaging.Number.Uint256
import LayerMessaging.Path
import LayerMessaging.Program.CommandLine
import LayerMessaging.Program.Run
import LayerMessaging.Program.Usage
import LayerMessaging.Rlp
import LayerMessaging.Rpc.Answer
import LayerMessaging.Rpc.Call
import LayerMessaging.Rpc.Client
import LayerMessaging.Settings.Basic
import LayerMessaging.Settings.Decode
import LayerMessaging.Settings.Validation
import LayerMessaging.Submission.Basic
import LayerMessaging.Submission.Confirmation
import LayerMessaging.Submission.Pricing
import LayerMessaging.Submission.Submitter
import LayerMessaging.Text.Alphanumeric
import LayerMessaging.Text.Blank
import LayerMessaging.Text.CombiningClass
import LayerMessaging.Text.Composed
import LayerMessaging.Text.Composite
import LayerMessaging.Text.Listing
import LayerMessaging.Text.Mark
import LayerMessaging.Text.Quoted
import LayerMessaging.Text.Ranges
import LayerMessaging.Text.Unprintable
import LayerMessaging.Text.Utf8
import LayerMessaging.Toml.Basic
import LayerMessaging.Toml.Document
import LayerMessaging.Toml.Numeral
import LayerMessaging.Toml.Quoted
import LayerMessaging.Toml.Table
import LayerMessaging.Toml.Value
import LayerMessaging.Url.Basic
import LayerMessaging.Url.Direction
import LayerMessaging.Url.Domain
import LayerMessaging.Url.Error
import LayerMessaging.Url.Host
import LayerMessaging.Url.Joiner
import LayerMessaging.Url.Label
import LayerMessaging.Url.NameCharacter
import LayerMessaging.Url.Parser
import LayerMessaging.Url.Percent
import LayerMessaging.Url.Punycode
import LayerMessaging.Url.UrlPath
import LayerMessaging.Proofs.Rpc.Trace
import LayerMessaging.Proofs.Rpc.Stage
import LayerMessaging.Proofs.Rpc.Client
import LayerMessaging.Proofs.Submission.Waiting
import LayerMessaging.Proofs.Submission.Course
import LayerMessaging.Proofs.Command.LiveRun
import LayerMessaging.Proofs.Command.Handover
import LayerMessaging.Proofs.Rlp.Reader
import LayerMessaging.Proofs.Chain.SignedTransaction
import LayerMessaging.Proofs.Submission.Broadcast
import LayerMessaging.Proofs.Command.Broadcast
import LayerMessaging.Proofs.Command.Preview
import LayerMessaging.Proofs.Submission.Verdict
import LayerMessaging.Proofs.Submission.Conversation
import LayerMessaging.Proofs.Command.Conversation
import LayerMessaging.Proofs.Rpc.FirstValue
import LayerMessaging.Proofs.Command.ReportedChain
import LayerMessaging.Proofs.Abi.Reader
import LayerMessaging.Proofs.Message.Calldata
import LayerMessaging.Proofs.Chain.Ledger
import LayerMessaging.Proofs.Submission.Nonce
import LayerMessaging.Proofs.Command.Repetition
import LayerMessaging.Proofs.Command.Answering
import LayerMessaging.Proofs.Bytes.Hex
import LayerMessaging.Proofs.Submission.Pricing
import LayerMessaging.Proofs.Config.Resolution
import LayerMessaging.Proofs.Command.Configured
import LayerMessaging.Proofs.Command.DryRun
import LayerMessaging.Proofs.Number.Numeral
import LayerMessaging.Proofs.Message.PayloadText
import LayerMessaging.Proofs.EnvFile.Key
import LayerMessaging.Proofs.EnvFile.Line
import LayerMessaging.Proofs.EnvFile.Entry
import LayerMessaging.Proofs.EnvFile.Value
import LayerMessaging.Proofs.EnvFile.Disclosure
import LayerMessaging.Proofs.Command.Deployment
import LayerMessaging.Proofs.EnvFile.Template
import LayerMessaging.Proofs.EnvFile.Overlay
import LayerMessaging.Proofs.Number.Grouped
import LayerMessaging.Proofs.Message.PayloadGrammar
import LayerMessaging.Proofs.Json.Pretty
import LayerMessaging.Proofs.Json.Fields
import LayerMessaging.Proofs.Program.Printed
import LayerMessaging.Proofs.Command.KeySecrecy
import LayerMessaging.Proofs.Command.ReceivingNode
import LayerMessaging.Proofs.Command.ToolUse
import LayerMessaging.Proofs.Program.Stages
import LayerMessaging.Proofs.Submission.Timeliness
import LayerMessaging.Proofs.Submission.PriceCap
import LayerMessaging.Proofs.Submission.Refusal
import LayerMessaging.Proofs.Path
import LayerMessaging.Proofs.Deploy.ArtifactPath
import LayerMessaging.Proofs.Deploy.Report
import LayerMessaging.Proofs.Bytes.HexNumber
import LayerMessaging.Proofs.Chain.KeyText
import LayerMessaging.Proofs.Config.Providers
import LayerMessaging.Proofs.Message.Selector
import LayerMessaging.Proofs.Settings.Validation
