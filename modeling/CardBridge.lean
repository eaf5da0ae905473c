import CardBridge.Card.Bench
import CardBridge.Frame.Feed
import CardBridge.Session.Run
import CardBridge.Text.Blank
import CardBridge.Text.Quoted
import CardBridge.Text.Table
import CardBridge.Transport.Site
import CardBridge.Cli.Apdu
import CardBridge.Cli.Record
import CardBridge.Cli.Timeout
import CardBridge.Cli.Version
import CardBridge.Cli.Reader
import CardBridge.Cli.Serve
import CardBridge.Session.Supervisor
import CardBridge.Cli.Args
import CardBridge.Main
import CardBridge.Cli.Rehearsal
import CardBridge.Proofs.Frame.Transfer
import CardBridge.Proofs.Session.Account
import CardBridge.Proofs.Session.Rules
import CardBridge.Proofs.Session.Scene
import CardBridge.Proofs.Session.Listening
import CardBridge.Proofs.Relay.Errands
import CardBridge.Proofs.Relay.Reader
import CardBridge.Proofs.Relay.Prospect
import CardBridge.Proofs.Relay.Line
import CardBridge.Proofs.Relay.Transparency
import CardBridge.Proofs.Session.Ending
import CardBridge.Proofs.Session.Books
import CardBridge.Proofs.Frame.Buffer
import CardBridge.Proofs.Frame.Reading
import CardBridge.Proofs.Session.Reception
import CardBridge.Proofs.Session.Firm
import CardBridge.Proofs.Session.Succession
import CardBridge.Frame.Writer
import CardBridge.Proofs.Frame.Sending
import CardBridge.Proofs.Frame.Messages
import CardBridge.Proofs.Relay.Dealings
import CardBridge.Proofs.Relay.Delivery
import CardBridge.Proofs.Relay.Lateness
import CardBridge.Proofs.Frame.Agreement
import CardBridge.Proofs.Card.BufferIndex
import CardBridge.Proofs.Session.Observer
import CardBridge.Proofs.Card.Kinds
import CardBridge.Proofs.Card.AnswerToReset
import CardBridge.Proofs.Cli.Deadline
import CardBridge.Proofs.Frame.Receiving
import CardBridge.Proofs.Cli.Conversation
import CardBridge.Proofs.Cli.Printing
import CardBridge.Proofs.Cli.Following
import CardBridge.Proofs.Cli.Telling
import CardBridge.Proofs.Cli.Bounds
import CardBridge.Proofs.Cli.Apdus
import CardBridge.Proofs.Cli.Faults
import CardBridge.Proofs.Cli.Lines
import CardBridge.Proofs.Cli.Refusals
import CardBridge.Proofs.Frame.Requests
import CardBridge.Proofs.Session.Awaiting
import CardBridge.Proofs.Rounds
import CardBridge.Proofs.Frame.Rounds
import CardBridge.Proofs.Session.Rounds
import CardBridge.Proofs.Cli.Rounds
