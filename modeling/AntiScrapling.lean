import AntiScrapling.CheckedRun
import AntiScrapling.ByteCodec
import AntiScrapling.UnicodeText
import AntiScrapling.GoText
import AntiScrapling.JsonDecode
import AntiScrapling.StringMap
import AntiScrapling.SeparatedText
import AntiScrapling.ListEdits
import AntiScrapling.Subsequences
import AntiScrapling.SlidingWindow
import AntiScrapling.RingBuffer
import AntiScrapling.KeyedStore
import AntiScrapling.LruCache
import AntiScrapling.Runs
import AntiScrapling.ForkJoin
import AntiScrapling.Timeline
import AntiScrapling.ThreadPool
import AntiScrapling.Unwinding
import AntiScrapling.EventHistory
import AntiScrapling.Cel
import AntiScrapling.CelText
import AntiScrapling.CelLiteral
import AntiScrapling.HostPort
import AntiScrapling.IpAddress
import AntiScrapling.HtmlTags
import AntiScrapling.UrlPath
import AntiScrapling.Hpack
import AntiScrapling.Request
import AntiScrapling.MemoryCache
import AntiScrapling.CacheRuns
import AntiScrapling.ClientHello
import AntiScrapling.ExtensionParsers
import AntiScrapling.ClientHelloSafety
import AntiScrapling.ClientHelloFraming
import AntiScrapling.ClientHelloWire
import AntiScrapling.ClientHelloCapture
import AntiScrapling.CaptureMap
import AntiScrapling.Token
import AntiScrapling.KeyFile
import AntiScrapling.Fingerprint
import AntiScrapling.ChallengeIssuer
import AntiScrapling.ChallengeService
import AntiScrapling.ChallengeRuns
import AntiScrapling.ChallengeRace
import AntiScrapling.ChallengeClient
import AntiScrapling.ProofOfWork
import AntiScrapling.ChallengeMarkup
import AntiScrapling.BeaconStore
import AntiScrapling.Behavior
import AntiScrapling.Decision
import AntiScrapling.Policy
import AntiScrapling.MatchText
import AntiScrapling.MatchKeys
import AntiScrapling.PolicyLint
import AntiScrapling.Pipeline
import AntiScrapling.PolicyVerdict
import AntiScrapling.CollectSchedules
import AntiScrapling.ScoringRule
import AntiScrapling.CombinedScore
import AntiScrapling.FingerprintSignals
import AntiScrapling.ScoringAgreement
import AntiScrapling.DecisionCache
import AntiScrapling.Audit
import AntiScrapling.SortedLists
import AntiScrapling.TlsFingerprint
import AntiScrapling.Ja3Strings
import AntiScrapling.TlsForms
import AntiScrapling.Ja4Strings
import AntiScrapling.Ja4Wire
import AntiScrapling.Ja4h
import AntiScrapling.Http2Frames
import AntiScrapling.HpackReading
import AntiScrapling.HpackNames
import AntiScrapling.Http2Stream
import AntiScrapling.Http2Safety
import AntiScrapling.Akamai
import AntiScrapling.AkamaiStrings
import AntiScrapling.Continuation
import AntiScrapling.IpReputation
import AntiScrapling.HeaderChecks
import AntiScrapling.HeaderOrder
import AntiScrapling.Http2Collector
import AntiScrapling.SignalNames
import AntiScrapling.RefererWindows
import AntiScrapling.ProxyHandler
import AntiScrapling.ProxyForward
import AntiScrapling.CacheKeys
import AntiScrapling.DecideHandler
import AntiScrapling.DecidePaths
import AntiScrapling.PassFlow
import AntiScrapling.ChallengeReturn
import AntiScrapling.AdapterPaths
import AntiScrapling.AdapterCalls
import AntiScrapling.VisibilityTimer
import AntiScrapling.BehaviorRecorder
import AntiScrapling.CliBindings
import AntiScrapling.ProxyServer
import AntiScrapling.DecisionOrigin
import AntiScrapling.PassOrigin
import AntiScrapling.ServerBooks
import AntiScrapling.UpstreamSafety
import AntiScrapling.ClientIsolation
import AntiScrapling.FingerprintCollector
import AntiScrapling.FingerprintDelivery
import AntiScrapling.SolverProgress
