import EPuckTavern.ApproachError
import EPuckTavern.AvoidObstacles
import EPuckTavern.Beer
import EPuckTavern.BeerTimer
import EPuckTavern.BusHistory
import EPuckTavern.CameraBuffers
import EPuckTavern.CameraMemory
import EPuckTavern.CameraRecovery
import EPuckTavern.CaptureStall
import EPuckTavern.ColorScanConsistency
import EPuckTavern.ColorVote
import EPuckTavern.DarkLine
import EPuckTavern.Data.ClampedSum
import EPuckTavern.Data.FirstIndex
import EPuckTavern.Data.LinkedList
import EPuckTavern.Data.Ownership
import EPuckTavern.Data.RingBuffer
import EPuckTavern.Data.WordSum
import EPuckTavern.DetectionLine
import EPuckTavern.DetectionLoop
import EPuckTavern.DetectionSpans
import EPuckTavern.Displacement
import EPuckTavern.DistanceFilter
import EPuckTavern.DoubleBuffer
import EPuckTavern.DoubleBufferFrames
import EPuckTavern.ImageBounds
import EPuckTavern.ImageMean
import EPuckTavern.LinkedBus
import EPuckTavern.LinkedBusFinds
import EPuckTavern.LinkedBusProgress
import EPuckTavern.LinkedBusRefinement
import EPuckTavern.Melody
import EPuckTavern.MelodySong
import EPuckTavern.MelodyStall
import EPuckTavern.MessageBus
import EPuckTavern.MessageTopic
import EPuckTavern.ModeLeaving
import EPuckTavern.Narrowing
import EPuckTavern.NewFrames
import EPuckTavern.NewFramesNeeded
import EPuckTavern.ObstacleFreshness
import EPuckTavern.ObstacleFront
import EPuckTavern.ObstaclePass
import EPuckTavern.PausableThread
import EPuckTavern.PidDistance
import EPuckTavern.PidNarrowing
import EPuckTavern.PidWindUp
import EPuckTavern.Platform
import EPuckTavern.ProcessImage
import EPuckTavern.Proximity
import EPuckTavern.ProximityCalibration
import EPuckTavern.ProximitySampling
import EPuckTavern.Pursuit
import EPuckTavern.PursuitFilter
import EPuckTavern.PursuitHistory
import EPuckTavern.PursuitVictory
import EPuckTavern.Scan
import EPuckTavern.ScanRange
import EPuckTavern.Scenario
import EPuckTavern.ScenarioFlag
import EPuckTavern.StepperCoils
import EPuckTavern.StepperMotor
import EPuckTavern.StepperSpeed
import EPuckTavern.Stroll
import EPuckTavern.StrollHandover
import EPuckTavern.StrollManoeuvre
import EPuckTavern.Tavern
import EPuckTavern.TavernColor
import EPuckTavern.TavernJobs
import EPuckTavern.TavernTurns
import EPuckTavern.TopicHistory
import EPuckTavern.TopicList
import EPuckTavern.TopicWaits
import EPuckTavern.Transition.Ledger
import EPuckTavern.Transition.LockOrder
import EPuckTavern.Transition.Monitor
import EPuckTavern.Transition.MonitorView
import EPuckTavern.Transition.Run
import EPuckTavern.Transition.Sections
import EPuckTavern.Transition.Waiting
import EPuckTavern.Vision
import EPuckTavern.Walk
import EPuckTavern.WatchGroupOrder
import EPuckTavern.WatchGroupWaits
import EPuckTavern.WatchGroups
import EPuckTavern.WayBack
import EPuckTavern.Worker
import EPuckTavern.WorkerArea
import EPuckTavern.WorkerMotors
import EPuckTavern.WorkerRegister
import EPuckTavern.WorkerReport
import EPuckTavern.WorkerStart
