import WalletWatch.Draw.Theme
import WalletWatch.Main
import WalletWatch.Proofs.Cadence
import WalletWatch.Proofs.Cancellation
import WalletWatch.Proofs.Completion
import WalletWatch.Proofs.Geometry
import WalletWatch.Proofs.Http.Outcomes
import WalletWatch.Proofs.Http.SessionField
import WalletWatch.Proofs.Outbox
import WalletWatch.Proofs.Page.Targets
import WalletWatch.Proofs.Poll.Replies
import WalletWatch.Proofs.PollBody
import WalletWatch.Proofs.Polling
import WalletWatch.Proofs.Posts
import WalletWatch.Proofs.Requests
import WalletWatch.Proofs.Reserved
import WalletWatch.Proofs.Sizes
import WalletWatch.Proofs.StatusColour
import WalletWatch.Proofs.View
import WalletWatch.Watch.Probe
