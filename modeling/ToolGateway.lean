import ToolGateway.Files.Tree
import ToolGateway.Main
import ToolGateway.Proofs.Session.Replies
import ToolGateway.Proofs.Gateway.Dispatch
import ToolGateway.Proofs.Members
import ToolGateway.Proofs.Schema.Validity
import ToolGateway.Proofs.Service.Declaration
import ToolGateway.Proofs.Schema.Agreement
import ToolGateway.Proofs.Json.Grammar
import ToolGateway.Proofs.Json.Numerals
import ToolGateway.Proofs.Text.Utf8
import ToolGateway.Proofs.Json.Strings
import ToolGateway.Proofs.Json.Reading
import ToolGateway.Proofs.Decode.Record
import ToolGateway.Proofs.Decode.Json
import ToolGateway.Proofs.Protocol.RequestForm
import ToolGateway.Proofs.Protocol.RequestText
import ToolGateway.Proofs.Gateway.ResourceUri
import ToolGateway.Proofs.Service.Resolution
import ToolGateway.Proofs.Gateway.Addressing
import ToolGateway.Proofs.Gateway.Outcome
import ToolGateway.Proofs.Server.Contract
import ToolGateway.Proofs.Users.Calls
import ToolGateway.Proofs.Users.Store
import ToolGateway.Proofs.Users.Runs
import ToolGateway.Proofs.Users.History
import ToolGateway.Proofs.Users.Section
import ToolGateway.Proofs.Users.Concurrency
import ToolGateway.Proofs.Users.Linearization
import ToolGateway.Proofs.Session.Isolation
import ToolGateway.Proofs.Service.Listing
import ToolGateway.Proofs.Remote.Transparency
import ToolGateway.Proofs.Json.RoundTrip
import ToolGateway.Proofs.Json.Parsed
import ToolGateway.Proofs.Json.Printed
import ToolGateway.Proofs.Session.Output
import ToolGateway.Proofs.Gateway.Construction
import ToolGateway.Proofs.Users.Growth
import ToolGateway.Proofs.Gateway.Marshalling
import ToolGateway.Proofs.Users.Tools
import ToolGateway.Proofs.Server.CallText
import ToolGateway.Proofs.Protocol.Classification
import ToolGateway.Proofs.Server.History
import ToolGateway.Proofs.Service.Faults
import ToolGateway.Proofs.Wire.Messages
import ToolGateway.Proofs.Gateway.Misfits
import ToolGateway.Proofs.Gateway.Forwarding
import ToolGateway.Proofs.Users.Refusals
import ToolGateway.Proofs.Gateway.Reading
import ToolGateway.Proofs.Catalog.Index
import ToolGateway.Proofs.Catalog.Selection
import ToolGateway.Proofs.Service.Document
import ToolGateway.Proofs.Users.Updates
import ToolGateway.Proofs.Json.Edges
import ToolGateway.Proofs.Session.Unparsed
import ToolGateway.Proofs.Protocol.Reencoding
import ToolGateway.Service.MessageIndex
import ToolGateway.Proofs.Places
import ToolGateway.Proofs.Service.Permutation
import ToolGateway.Proofs.Users.Listing
import ToolGateway.Proofs.Remote.Calls
import ToolGateway.Proofs.Settings.Texts
import ToolGateway.Proofs.Settings.Natural
import ToolGateway.Proofs.CommandLine.Sources
import ToolGateway.Proofs.Gateway.UriOffset
import ToolGateway.Proofs.Service.MethodFaults
import ToolGateway.Proofs.Schema.Text
