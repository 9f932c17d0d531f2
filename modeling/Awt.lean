import Awt.Graph.FrameQueue
import Awt.Proofs.DecodeContract
import Awt.Lib.Ring
import Awt.Proofs.BlockStreams
import Awt.Proofs.BufferQueue
import Awt.Proofs.CachedConfig
import Awt.Proofs.Configuration
import Awt.Proofs.DecoderLife
import Awt.Proofs.Detections
import Awt.Proofs.DurationLimit
import Awt.Proofs.EndOfStream
import Awt.Proofs.LicenseChecks
import Awt.Proofs.Lockstep
import Awt.Proofs.OpenedAlike
import Awt.Proofs.PacketFeed
import Awt.Proofs.PacketProps
import Awt.Proofs.PassThrough
import Awt.Proofs.Reblocking
import Awt.Proofs.Repetition
import Awt.Proofs.Rescale
import Awt.Proofs.ReturnCodes
import Awt.Proofs.SameFeeds
import Awt.Proofs.SampleConservation
import Awt.Proofs.SkippedSamples
import Awt.Proofs.SlotRaces
import Awt.Proofs.SlotSessions
import Awt.Proofs.SlotStops
import Awt.Proofs.TimeAccounting
import Awt.Proofs.FrameQueue
import Awt.Proofs.GraphSessions
import Awt.Proofs.GraphReplies
import Awt.Proofs.LinkSamples
