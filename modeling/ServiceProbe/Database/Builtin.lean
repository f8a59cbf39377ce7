import ServiceProbe.Database

/-! # The built-in database

The probes that are known without any file. Every line is one directive. -/

namespace ServiceProbe.Database
set_option autoImplicit false

def exclusionsLines : List String := [
  "Exclude T:9100-9107"]

def bannerLines : List String := [
  "Probe TCP NULL q||",
  "totalwaitms 6000",
  "tcpwrappedms 3000",
  "match ftp m|^220 ProFTPD (\\d\\S+) Server| p/ProFTPD/ v/$1/ cpe:/a:proftpd:proftpd:$1/",
  "match ftp m|^220 \\(vsFTPd ([\\w.-]+)\\)\\r\\n| p/vsftpd/ v/$1/ o/Unix/ cpe:/a:vsftpd:vsftpd:$1/",
  "match ftp m|^220[- ]FileZilla Server(?: version)? ([\\w. -]+)\\r\\n| p/FileZilla ftpd/ v/$1/ o/Windows/ cpe:/a:filezilla-project:filezilla_server:$1/ cpe:/o:microsoft:windows/a",
  "match ftp m|^220[- ].*Pure-FTPd|s p/Pure-FTPd/ cpe:/a:pureftpd:pure-ftpd/",
  "softmatch ftp m|^220[- ][^\\r\\n]*FTP|i",
  "match ssh m|^SSH-([\\d.]+)-OpenSSH_([\\w._-]+)[ -]\x7b1,2\x7dUbuntu[ -_]([^\\r\\n]+)\\r?\\n| p/OpenSSH/ v/$2 Ubuntu $3/ i/Ubuntu Linux; protocol $1/ o/Linux/ cpe:/a:openbsd:openssh:$2/ cpe:/o:canonical:ubuntu_linux/ cpe:/o:linux:linux_kernel/a",
  "match ssh m|^SSH-([\\d.]+)-OpenSSH_([\\w._-]+) Debian-(\\S+)\\r?\\n| p/OpenSSH/ v/$2 Debian $3/ i/protocol $1/ o/Linux/ cpe:/a:openbsd:openssh:$2/ cpe:/o:debian:debian_linux/ cpe:/o:linux:linux_kernel/a",
  "match ssh m|^SSH-([\\d.]+)-OpenSSH_([\\w._-]+)\\r?\\n| p/OpenSSH/ v/$2/ i/protocol $1/ cpe:/a:openbsd:openssh:$2/",
  "match ssh m|^SSH-([\\d.]+)-dropbear_([\\w.]+)\\r?\\n| p/Dropbear sshd/ v/$2/ i/protocol $1/ o/Linux/ cpe:/a:matt_johnston:dropbear_ssh_server:$2/ cpe:/o:linux:linux_kernel/a",
  "softmatch ssh m|^SSH-([\\d.]+)-[^\\r\\n]+\\r?\\n| i/protocol $1/",
  "match smtp m|^220 ([-\\w.]+) ESMTP Postfix \\(Ubuntu\\)\\r\\n| p/Postfix smtpd/ h/$1/ o/Linux/ cpe:/a:postfix:postfix/a cpe:/o:canonical:ubuntu_linux/a",
  "match smtp m|^220 ([-\\w.]+) ESMTP Postfix| p/Postfix smtpd/ h/$1/ cpe:/a:postfix:postfix/a",
  "match smtp m|^220 ([-\\w.]+) ESMTP Exim (\\d[\\w.]+)| p/Exim smtpd/ v/$2/ h/$1/ cpe:/a:exim:exim:$2/",
  "match smtp m|^220 ([-\\w.]+) ESMTP Sendmail ([\\w.]+)/([\\w.]+);| p/Sendmail/ v/$2/ i/Sendmail $3/ h/$1/ cpe:/a:sendmail:sendmail:$2/",
  "softmatch smtp m|^220[ -][^\\r\\n]*E?SMTP|i",
  "match pop3 m|^\\+OK Dovecot (?:\\([^)]+\\) )?ready\\.\\r\\n| p/Dovecot pop3d/ cpe:/a:dovecot:dovecot/a",
  "softmatch pop3 m|^\\+OK [^\\r\\n]*\\r\\n|",
  "match imap m|^\\* OK (?:\\[[^\\]]+\\] )?Dovecot (?:\\([^)]+\\) )?ready\\.\\r\\n| p/Dovecot imapd/ cpe:/a:dovecot:dovecot/a",
  "softmatch imap m|^\\* OK [^\\r\\n]*IMAP|i",
  "match mysql m|^.\\0\\0\\0\\x0a(\\d+\\.\\d+\\.\\d+)-MariaDB[^\\0]*\\0|s p/MariaDB/ v/$1/ cpe:/a:mariadb:mariadb:$1/",
  "match mysql m|^.\\0\\0\\0\\x0a(\\d+\\.\\d+\\.\\d+)\\0|s p/MySQL/ v/$1/ cpe:/a:mysql:mysql:$1/",
  "match mysql m|^.\\0\\0\\0\\xffj\\x04Host '([-\\w.]+)' is not allowed to connect to this MySQL server$|s p/MySQL/ i/unauthorized/ h/$1/ cpe:/a:mysql:mysql/",
  "match mysql m|^.\\0\\0\\0\\xffj\\x04Host '([-\\w.]+)' is not allowed to connect to this MariaDB server$|s p/MariaDB/ i/unauthorized/ h/$1/ cpe:/a:mariadb:mariadb/",
  "match vnc m|^RFB 00(\\d)\\.00(\\d)\\n| p/VNC/ i/protocol $1.$2/",
  "match rsync m|^@RSYNCD: (\\d+(?:\\.\\d+)?)\\n| p/rsync/ i/protocol version $1/ cpe:/a:samba:rsync/",
  "match telnet m|^\\xff\\xfd\\x18\\xff\\xfd \\xff\\xfd#\\xff\\xfd'| p/Linux telnetd/ o/Linux/ cpe:/o:linux:linux_kernel/a",
  "softmatch telnet m|^\\xff[\\xfb-\\xfe].|s"]

def genericLinesLines : List String := [
  "Probe TCP GenericLines q|\\r\\n\\r\\n|",
  "rarity 1",
  "ports 21,23,35,43,79,98,110,113,119,199,214,264,449,505,510,540,587,616,628,666,731",
  "ports 771,782,1000,1010,1040-1043,1080,1212,1220,1248,1302,1400,1432,1467,1501,1505",
  "ports 1666,1687-1688,2000,2010,2024,2161,2226,2628,2947,3000,3005,3128,3310,3333",
  "ports 3940,4155,5000,5400,5432,5555,5570,6112,6667-6670,7144,7145,7200,7780,8000",
  "ports 8138,9000-9003,9801,11371,11965,13720,15000-15002,18086,19150,26214,26470",
  "ports 31416,30444,34012,56667",
  "sslports 989,990,992,995",
  "match ftp m|^220[- ]([-\\w.]+) FTP server \\(Version ([\\w.-]+)\\) ready\\.\\r\\n| p/BSD ftpd/ v/$2/ h/$1/",
  "match ftp m|^500 $\x7bbackquote\x7d': command not understood\\.\\r\\n| p/BSD ftpd/",
  "match irc m=^:([-\\w.]+) NOTICE (?:\\*|AUTH) :\\*\\*\\* = p/IRC server/ h/$1/",
  "match pop3 m|^-ERR Unknown command\\.?\\r\\n| p/generic pop3d/",
  "match http m|^HTTP/1\\.[01] \\d\\d\\d [^\\r\\n]*\\r\\n(?:[^\\r\\n]+\\r\\n)*?Server: ([^\\r\\n/]+)/([\\w.-]+)|s p/$1/ v/$2/",
  "softmatch http m|^HTTP/1\\.[01] \\d\\d\\d|"]

def getRequestLines : List String := [
  "Probe TCP GetRequest q|GET / HTTP/1.0\\r\\n\\r\\n|",
  "rarity 1",
  "ports 1,70,79,80-85,88,113,139,143,280,497,505,514,515,540,554,591,620,631,783,888",
  "ports 898,900,901,1026,1042,1080,1214,1220,1234,1314,1344,1503,1610,1611,1830,1900",
  "ports 2001,2002,2030,2064,2160,2306,2396,2525,2715,2869,3000,3002,3052,3128,3280",
  "ports 3372,3531,3689,4000,4660,5000,5060,5222,5269,5427,5432,5800-5803,5900,5985",
  "ports 6103,6346,6544,6600,6699,6969,7002,7007,7070,7100,7402,7776,8000-8010",
  "ports 8080-8085,8088,8118,8123,8181,8200,8300,8500,8800,8880,8888,9000,9001,9080",
  "ports 9090,9100,9200,9999,10000,10005,11371,13013,13666,16080,20000,20034,27504",
  "ports 28017,30000,32000,32400,49152,49153",
  "sslports 443,4443,8443",
  "match http m|^HTTP/1\\.[01] \\d\\d\\d .*\\r\\nServer: nginx/([\\d.]+)|s p/nginx/ v/$1/ cpe:/a:igor_sysoev:nginx:$1/",
  "match http m|^HTTP/1\\.[01] \\d\\d\\d .*\\r\\nServer: nginx\\r\\n|s p/nginx/ cpe:/a:igor_sysoev:nginx/",
  "match http m|^HTTP/1\\.[01] \\d\\d\\d .*\\r\\nServer: Apache/([\\d.]+) \\(([^)]+)\\)|s p/Apache httpd/ v/$1/ i/$2/ cpe:/a:apache:http_server:$1/",
  "match http m|^HTTP/1\\.[01] \\d\\d\\d .*\\r\\nServer: Apache/([\\d.]+)|s p/Apache httpd/ v/$1/ cpe:/a:apache:http_server:$1/",
  "match http m|^HTTP/1\\.[01] \\d\\d\\d .*\\r\\nServer: Microsoft-IIS/([\\d.]+)|s p/Microsoft IIS httpd/ v/$1/ o/Windows/ cpe:/a:microsoft:internet_information_services:$1/ cpe:/o:microsoft:windows/a",
  "match http m|^HTTP/1\\.[01] \\d\\d\\d .*\\r\\nServer: lighttpd/([\\d.]+)|s p/lighttpd/ v/$1/ cpe:/a:lighttpd:lighttpd:$1/",
  "match http m|^HTTP/1\\.[01] \\d\\d\\d .*\\r\\nServer: Jetty\\(([\\w._-]+)\\)|s p/Jetty/ v/$1/ cpe:/a:eclipse:jetty:$1/",
  "match http m|^HTTP/1\\.[01] \\d\\d\\d .*\\r\\nServer: Werkzeug/([\\d.]+) Python/([\\d.]+)|s p/Werkzeug httpd/ v/$1/ i/Python $2/ cpe:/a:python:python:$2/",
  "match http-proxy m|^HTTP/1\\.[01] \\d\\d\\d .*\\r\\nServer: squid/([\\w.]+)|s p/Squid http proxy/ v/$1/ cpe:/a:squid-cache:squid:$1/",
  "match elasticsearch m|^HTTP/1\\.[01] 200 OK\\r\\n.*\"cluster_name\" : \"([^\"]+)\".*\"number\" : \"([\\d.]+)\"|s p/Elasticsearch REST API/ v/$2/ i/cluster: $1/ cpe:/a:elastic:elasticsearch:$2/",
  "softmatch http m|^HTTP/1\\.[01] \\d\\d\\d|"]

def httpOptionsLines : List String := [
  "Probe TCP HTTPOptions q|OPTIONS / HTTP/1.0\\r\\n\\r\\n|",
  "rarity 4",
  "ports 80-85,631,641,2301,3128,5232,6000,8080,8888,9999,10000,10031,37435,49400",
  "sslports 443,8443",
  "fallback GetRequest",
  "match http m|^HTTP/1\\.[01] \\d\\d\\d .*\\r\\nDAV: 1|s i/WebDAV enabled/"]

def rtspRequestLines : List String := [
  "Probe TCP RTSPRequest q|OPTIONS / RTSP/1.0\\r\\n\\r\\n|",
  "rarity 5",
  "ports 554,8554",
  "fallback GetRequest",
  "match rtsp m|^RTSP/1\\.0 \\d\\d\\d .*\\r\\nServer: GStreamer RTSP server|s p/GStreamer rtspd/",
  "softmatch rtsp m|^RTSP/1\\.0 \\d\\d\\d|"]

def helpLines : List String := [
  "Probe TCP Help q|HELP\\r\\n|",
  "rarity 3",
  "ports 21,23,25,110,119,143,4000",
  "fallback GenericLines",
  "match smtp m|^214-This is Sendmail version ([\\w.]+)\\r\\n| p/Sendmail/ v/$1/ cpe:/a:sendmail:sendmail:$1/",
  "match ftp m|^214-The following commands are recognized| p/generic ftpd/"]

def redisLines : List String := [
  "Probe TCP redis-server q|*1\\r\\n$4\\r\\ninfo\\r\\n|",
  "rarity 8",
  "ports 6379",
  "match redis m|^\\$\\d+\\r\\n# Server\\r\\nredis_version:([\\d.]+)\\r\\n|s p/Redis key-value store/ v/$1/ cpe:/a:redislabs:redis:$1/",
  "match redis m|^-NOAUTH Authentication required\\.\\r\\n| p/Redis key-value store/ i/authentication required/ cpe:/a:redislabs:redis/"]

def memcachedLines : List String := [
  "Probe TCP memcached q|stats\\r\\n|",
  "rarity 8",
  "ports 11211",
  "match memcached m|^STAT pid \\d+\\r\\n.*STAT version ([\\d.]+)\\r\\n|s p/Memcached/ v/$1/ cpe:/a:memcached:memcached:$1/"]

def dnsVersionLines : List String := [
  "Probe UDP DNSVersionBindReq q|\\0\\x06\\x01\\0\\0\\x01\\0\\0\\0\\0\\0\\0\\x07version\\x04bind\\0\\0\\x10\\0\\x03|",
  "rarity 1",
  "ports 53,1967,2967,26198",
  "totalwaitms 3000",
  "match domain m|^\\0\\x06\\x85\\0\\0\\x01\\0\\x01.*\\x07version\\x04bind\\0\\0\\x10\\0\\x03\\xc0\\x0c\\0\\x10\\0\\x03.\x7b7\x7d(\\d+\\.\\d+\\.[\\w.-]+)|s p/ISC BIND/ v/$1/ cpe:/a:isc:bind:$1/",
  "softmatch domain m|^\\0\\x06[\\x80-\\x87]|"]

def snmpPublicLines : List String := [
  "Probe UDP SNMPv1public q|0\\x82\\0/\\x02\\x01\\0\\x04\\x06public\\xa0\\x82\\0\\x20\\x02\\x04\\x4c\\x33\\xa7\\x56\\x02\\x01\\0\\x02\\x01\\0\\x30\\x82\\0\\x10\\x30\\x82\\0\\x0c\\x06\\x08\\x2b\\x06\\x01\\x02\\x01\\x01\\x05\\0\\x05\\0|",
  "rarity 4",
  "ports 161",
  "totalwaitms 3000",
  "match snmp m|^0.\x7b1,3\x7d\\x02\\x01\\0\\x04\\x06public\\xa2.*\\x06\\x08\\+\\x06\\x01\\x02\\x01\\x01\\x05\\0\\x04.(.+)$|s p/SNMPv1 server/ i/public; sysName $P(1)/",
  "softmatch snmp m|^0.\x7b1,3\x7d\\x02\\x01\\0\\x04\\x06public\\xa2|s p/SNMPv1 server/"]

def builtinLines : List String :=
  exclusionsLines ++ bannerLines ++ genericLinesLines ++ getRequestLines ++ httpOptionsLines ++
    rtspRequestLines ++ helpLines ++ redisLines ++ memcachedLines ++ dnsVersionLines ++
    snmpPublicLines

/-- The text of the built-in database. -/
def builtin : Text := builtinLines.flatMap fun line => line.toList ++ ['\n']

/-- The built-in database as it loads. -/
def loadedBuiltin : Except Refusal (Registry × List Warning) := load builtin

end ServiceProbe.Database

/-- The registry of the built-in database. -/
def ServiceProbe.Registry.builtin : Except ServiceProbe.Error ServiceProbe.Registry :=
  (ServiceProbe.Database.loadedBuiltin.mapError (·.error)).map (·.1)
