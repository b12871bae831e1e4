import OpServer.BigEndianWords
import OpServer.BoundedCopy
import OpServer.SignedBits
import OpServer.BitWindows
import OpServer.SteppedRuns
import OpServer.SteppedSimulations
import OpServer.StreamSessions
import OpServer.LetterBags
import OpServer.LossyChannel
import OpServer.LockStepChannels
import OpServer.PointerRing
import OpServer.OnesComplementSum
import OpServer.DecimalNumerals
import OpServer.DecimalPrinting
import OpServer.PythonRuntime
import OpServer.CalcOperations
import OpServer.CalcCodec
import OpServer.CalcEvaluator
import OpServer.CalcResponses
import OpServer.ReceiveLoops
import OpServer.UdpSession
import OpServer.UdpReplyIsolation
import OpServer.TcpFraming
import OpServer.TcpConnections
import OpServer.PythonCalculator
import OpServer.PythonReplies
import OpServer.CalcInteroperability
import OpServer.UdpClient
import OpServer.UdpSystem
import OpServer.ClientDestination
import OpServer.UdpInvariants
import OpServer.UdpIntegrity
import OpServer.UdpMatching
import OpServer.UdpProgress
import OpServer.PythonUdpSystem
import OpServer.PythonUdpRefinement
import OpServer.PythonUdpIntegrity
import OpServer.PythonSessions
import OpServer.TcpSessions
import OpServer.IntParams
import OpServer.RingMaster
import OpServer.RingSlave
import OpServer.RingPorts
import OpServer.RingJoins
import OpServer.RingTopology
import OpServer.RingJoinSystem
import OpServer.RingJoinAgreement
import OpServer.RingJoinProgress
import OpServer.RingDatagrams
import OpServer.RingBursts
import OpServer.RingIdentities
import OpServer.RingHandler
import OpServer.RingDelivery
import OpServer.RingForwarding
import OpServer.RingThreads
import OpServer.RingThreadTargets
import OpServer.RingNetwork
import OpServer.RingContents
import OpServer.RingIntegrity
import OpServer.RingConservation
import OpServer.RingPaths
import OpServer.RingJourneys
import OpServer.RingJoinRequests
import OpServer.RingJoinResponses
import OpServer.RingReceiver
import OpServer.RingDispatch
