import Portfolio.Completion
import Portfolio.Main
import Portfolio.Proofs.Content.Loading
import Portfolio.Proofs.Filesystem.Projects
import Portfolio.Proofs.Filesystem.Search
import Portfolio.Proofs.Program.StartUp
import Portfolio.Proofs.Program.Conversation
import Portfolio.Proofs.Program.Intents
import Portfolio.Proofs.Session.Run
import Portfolio.Proofs.Filesystem.ProjectIds
import Portfolio.Proofs.Command.Line
import Portfolio.Proofs.Session.Frame
import Portfolio.Proofs.Session.Dispatch
import Portfolio.Proofs.Site.Spelling
import Portfolio.Proofs.Session.Listed
import Portfolio.Proofs.Filesystem.Structure
import Portfolio.Proofs.Filesystem.Order
import Portfolio.Proofs.Command.Tokens
import Portfolio.Proofs.Completion.Suggestions
import Portfolio.Proofs.Completion.Replacing
import Portfolio.Proofs.Completion.Paths
import Portfolio.Proofs.Command.Splitting
import Portfolio.Proofs.Filesystem.Drawing
import Portfolio.Proofs.Session.Navigation
import Portfolio.Proofs.Filesystem.Vantage
import Portfolio.Proofs.Site.Attachments
import Portfolio.Proofs.Filesystem.Queries
import Portfolio.Proofs.Session.Entering
import Portfolio.Proofs.Session.Host
import Portfolio.Proofs.Session.Searching
import Portfolio.Proofs.Filesystem.Slices
import Portfolio.Proofs.Content.Records
import Portfolio.Proofs.Slug.Grammar
import Portfolio.Proofs.Slug.Attempts
import Portfolio.Proofs.Command.Stripping
import Portfolio.Proofs.Site.Pages
import Portfolio.Proofs.Search.Window
import Portfolio.Proofs.Command.Registering
