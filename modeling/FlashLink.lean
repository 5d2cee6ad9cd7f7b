import FlashLink.Banner
import FlashLink.BlockDevice
import FlashLink.BringUp
import FlashLink.BringUp.Image
import FlashLink.BringUp.Stage
import FlashLink.Channel
import FlashLink.Checksum
import FlashLink.Checksum.Crc
import FlashLink.Checksum.OnesSum
import FlashLink.Code.Command
import FlashLink.Code.Reply
import FlashLink.CommandLine
import FlashLink.CommandLine.Grammar
import FlashLink.CommandLine.Help
import FlashLink.CommandLine.Vocabulary
import FlashLink.Content
import FlashLink.Device
import FlashLink.Event
import FlashLink.Event.Journal
import FlashLink.Failure
import FlashLink.Files
import FlashLink.Frame
import FlashLink.Link
import FlashLink.Main
import FlashLink.PartitionTable
import FlashLink.Request
import FlashLink.Session
import FlashLink.Settings
import FlashLink.Settings.Text
import FlashLink.SizeText
import FlashLink.Stuffing
import FlashLink.Text.Blank
import FlashLink.Text.Hex
import FlashLink.Text.Utf16
import FlashLink.Text.Utf8
import FlashLink.Text.Visible
import FlashLink.Toml.Document
import FlashLink.Toml.Node
import FlashLink.Toml.Quoted
import FlashLink.Toml.Scalar
import FlashLink.Transfer.Download
import FlashLink.Transfer.Dump
import FlashLink.Transfer.Phase
import FlashLink.Transfer.Upload
import FlashLink.Window
import FlashLink.Word
import FlashLink.Proofs.Frame
import FlashLink.Proofs.Keeps
import FlashLink.Proofs.Agrees
import FlashLink.Proofs.Parallel
import FlashLink.Proofs.Receive
import FlashLink.Proofs.Attempts
import FlashLink.Proofs.Exchange
import FlashLink.Proofs.Device
import FlashLink.Proofs.Lasting
import FlashLink.Proofs.InSync
import FlashLink.Proofs.Session
import FlashLink.Proofs.Request
import FlashLink.Proofs.Window
import FlashLink.Proofs.Upload
import FlashLink.Proofs.Late
import FlashLink.Proofs.BlockDevice
import FlashLink.Proofs.Behind
import FlashLink.Proofs.Pieces
import FlashLink.Proofs.Download
import FlashLink.Proofs.Follows
import FlashLink.Proofs.Transcript
import FlashLink.Proofs.BringUp
import FlashLink.Proofs.Blameless
import FlashLink.Proofs.Dump
import FlashLink.Proofs.Untouched
import FlashLink.Proofs.Decoding
import FlashLink.Proofs.StopAndWait
import FlashLink.Proofs.Alike
import FlashLink.Proofs.Tardy
import FlashLink.Proofs.Corruption
import FlashLink.Proofs.Residue
import FlashLink.Proofs.Discipline
import FlashLink.Proofs.Copied
import FlashLink.Proofs.ReadRange
import FlashLink.Proofs.Draining
import FlashLink.Proofs.Rerun
import FlashLink.Proofs.Reported
import FlashLink.Proofs.SizeText
import FlashLink.Proofs.Progress
import FlashLink.Proofs.Fitting
import FlashLink.Proofs.Reads
import FlashLink.Proofs.Wrapping
