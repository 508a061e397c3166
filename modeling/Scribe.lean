import Scribe.Command.Run
import Scribe.Main
import Scribe.Store.Memory
import Scribe.Proofs.Config.Precedence
import Scribe.Proofs.Edit.Concatenation
import Scribe.Proofs.Edit.Geometry
import Scribe.Proofs.Edit.Replay
import Scribe.Proofs.Edit.Size
import Scribe.Proofs.Edit.Wire
import Scribe.Proofs.Markdown.Conservation
import Scribe.Proofs.Rpc.Classification
import Scribe.Proofs.Rpc.Positional
import Scribe.Proofs.Rpc.Serving
import Scribe.Proofs.Service.DryRun
import Scribe.Proofs.Service.Failure
import Scribe.Proofs.Service.History
import Scribe.Proofs.Service.Limit
import Scribe.Proofs.Service.Replacement
import Scribe.Proofs.Tool.Catalogue
import Scribe.Proofs.Config.Credential
import Scribe.Proofs.Store.Folders
import Scribe.Proofs.Service.Folders
import Scribe.Proofs.Remote.Conversation
import Scribe.Proofs.Remote.Query
import Scribe.Proofs.Remote.Paging
import Scribe.Proofs.Service.Conversation
import Scribe.Proofs.Remote.Token
import Scribe.Proofs.Markdown.Cut
import Scribe.Proofs.Markdown.Piece
import Scribe.Proofs.Service.ReadOnly
import Scribe.Proofs.Store.Listing
import Scribe.Proofs.Service.Newest
import Scribe.Proofs.Service.Creation
import Scribe.Proofs.Content
import Scribe.Proofs.Document.Reference
import Scribe.Proofs.Config.Repetition
import Scribe.Proofs.Export.Link
import Scribe.Proofs.Config.File
import Scribe.Proofs.Config.Usable
import Scribe.Proofs.Text.Quoted
import Scribe.Proofs.Json.Schema
import Scribe.Proofs.Redaction
import Scribe.Proofs.Remote.Lifetime
import Scribe.Proofs.Remote.Address
import Scribe.Proofs.Service.Comment
import Scribe.Proofs.Text.Boundary
import Scribe.Proofs.Service.Identity
