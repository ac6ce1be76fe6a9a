import LinuxSystemProgramming.Library.Transition
import LinuxSystemProgramming.Library.Serial
import LinuxSystemProgramming.Library.Tally
import LinuxSystemProgramming.Library.Monitor
import LinuxSystemProgramming.Library.RingBuffer
import LinuxSystemProgramming.Library.AtomicSemaphore
import LinuxSystemProgramming.Library.CString
import LinuxSystemProgramming.Library.Stdio
import LinuxSystemProgramming.Library.Outcome
import LinuxSystemProgramming.Library.NamedPipe
import LinuxSystemProgramming.Library.Directory
import LinuxSystemProgramming.Library.Directory.Remove
import LinuxSystemProgramming.Library.MessageQueue
import LinuxSystemProgramming.Library.Descriptors
import LinuxSystemProgramming.Construction.Semlib2
import LinuxSystemProgramming.Construction.Semlib2.Results
import LinuxSystemProgramming.Construction.BoundedBuffer
import LinuxSystemProgramming.Construction.ProdconsM
import LinuxSystemProgramming.Construction.ProdconsS
import LinuxSystemProgramming.Construction.ProdconsT
import LinuxSystemProgramming.Construction.Msgq
import LinuxSystemProgramming.Construction.Semlib
import LinuxSystemProgramming.Construction.Rpc
import LinuxSystemProgramming.Construction.Rpc.Service
import LinuxSystemProgramming.Construction.Chatc
import LinuxSystemProgramming.Construction.Chats
import LinuxSystemProgramming.Construction.Chat
import LinuxSystemProgramming.Construction.Sipc
import LinuxSystemProgramming.Construction.Sipc3
import LinuxSystemProgramming.Construction.Sipc4
import LinuxSystemProgramming.Construction.Shm
import LinuxSystemProgramming.Construction.ProducerS
import LinuxSystemProgramming.Construction.SplitMerge
import LinuxSystemProgramming.Construction.Mycp
import LinuxSystemProgramming.Construction.Mipc
import LinuxSystemProgramming.Construction.Mymore
import LinuxSystemProgramming.Construction.Fifos
import LinuxSystemProgramming.Construction.Tcps
import LinuxSystemProgramming.Construction.Hw2
import LinuxSystemProgramming.Construction.Select
import LinuxSystemProgramming.Construction.Hw3
import LinuxSystemProgramming.Construction.Handlers
import LinuxSystemProgramming.Construction.Pattern
import LinuxSystemProgramming.Construction.Mylsr
import LinuxSystemProgramming.Construction.Myrm
import LinuxSystemProgramming.Construction.Del
import LinuxSystemProgramming.Construction.Mylsl
import LinuxSystemProgramming.Construction.Mylsl.Listing
import LinuxSystemProgramming.Construction.Mysleep
import LinuxSystemProgramming.Construction.Alarm
import LinuxSystemProgramming.Construction.Size
import LinuxSystemProgramming.Proof.Semlib2.Invariant
import LinuxSystemProgramming.Proof.Semlib2.Wakeup
import LinuxSystemProgramming.Proof.Semlib2.Refinement
import LinuxSystemProgramming.Proof.BoundedBuffer
import LinuxSystemProgramming.Proof.ProdconsM.Queue
import LinuxSystemProgramming.Proof.ProdconsM.Progress
import LinuxSystemProgramming.Proof.ProdconsM.Refinement
import LinuxSystemProgramming.Proof.ProdconsM.Wakeup
import LinuxSystemProgramming.Proof.Semlib2.Calls
import LinuxSystemProgramming.Proof.Semlib2.Results
import LinuxSystemProgramming.Proof.ProdconsS.Semaphores
import LinuxSystemProgramming.Proof.ProdconsS.Slots
import LinuxSystemProgramming.Proof.ProdconsS.Buffer
import LinuxSystemProgramming.Proof.ProdconsS.Progress
import LinuxSystemProgramming.Proof.ProdconsT.Queue
import LinuxSystemProgramming.Proof.ProdconsT.Races
import LinuxSystemProgramming.Proof.Msgq
import LinuxSystemProgramming.Proof.Rpc.Sum
import LinuxSystemProgramming.Proof.Rpc.Session
import LinuxSystemProgramming.Proof.Rpc.Overlap
import LinuxSystemProgramming.Proof.Rpc.Startup
import LinuxSystemProgramming.Proof.Rpc.Turns
import LinuxSystemProgramming.Proof.Rpc.Service
import LinuxSystemProgramming.Proof.Rpc.Consecutive
import LinuxSystemProgramming.Proof.Chatc
import LinuxSystemProgramming.Proof.Chats.Decoding
import LinuxSystemProgramming.Proof.Chats.Routing
import LinuxSystemProgramming.Proof.Chats.Delivery
import LinuxSystemProgramming.Proof.Chats.Server
import LinuxSystemProgramming.Proof.Chats.Attribution
import LinuxSystemProgramming.Proof.Chats.Overload
import LinuxSystemProgramming.Proof.Chats.Printing
import LinuxSystemProgramming.Proof.Chats.Broadcast
import LinuxSystemProgramming.Proof.Chats.History
import LinuxSystemProgramming.Proof.Chat
import LinuxSystemProgramming.Proof.Chat.Progress
import LinuxSystemProgramming.Proof.Mycp
import LinuxSystemProgramming.Proof.SplitMerge
import LinuxSystemProgramming.Proof.Outcomes
import LinuxSystemProgramming.Proof.Mipc
import LinuxSystemProgramming.Proof.Mymore
import LinuxSystemProgramming.Proof.Semlib
import LinuxSystemProgramming.Proof.Sipc
import LinuxSystemProgramming.Proof.Sipc3
import LinuxSystemProgramming.Proof.Sipc4
import LinuxSystemProgramming.Proof.Shm
import LinuxSystemProgramming.Proof.ProducerS.Accounts
import LinuxSystemProgramming.Proof.ProducerS.Crash
import LinuxSystemProgramming.Proof.ProducerS.Queue
import LinuxSystemProgramming.Proof.ProducerS.Startup
import LinuxSystemProgramming.Proof.ProducerS.TearDown
import LinuxSystemProgramming.Proof.Fifos.Message
import LinuxSystemProgramming.Proof.Fifos.Clients
import LinuxSystemProgramming.Proof.Fifos.Answers
import LinuxSystemProgramming.Proof.Tcps
import LinuxSystemProgramming.Proof.Hw2
import LinuxSystemProgramming.Proof.Select
import LinuxSystemProgramming.Proof.Hw3
import LinuxSystemProgramming.Proof.Handlers
import LinuxSystemProgramming.Proof.Pattern
import LinuxSystemProgramming.Proof.Mylsr
import LinuxSystemProgramming.Proof.Mylsr.Paths
import LinuxSystemProgramming.Proof.Myrm
import LinuxSystemProgramming.Proof.Myrm.Listing
import LinuxSystemProgramming.Proof.Del
import LinuxSystemProgramming.Proof.Mylsl
import LinuxSystemProgramming.Proof.Mylsl.Listing
import LinuxSystemProgramming.Proof.Mysleep
import LinuxSystemProgramming.Proof.Alarm
import LinuxSystemProgramming.Proof.Size
